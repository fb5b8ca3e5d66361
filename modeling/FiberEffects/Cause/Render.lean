import FiberEffects.Cause.Basic
import FiberEffects.Text.Quoted

namespace FiberEffects

namespace Cause

variable {ε : Type}

def display (showError : ε → String) : Cause ε → String
  | .empty => "Empty"
  | .expected t e => s!"Expected({showError e}) at {t.display}"
  | .unexpected t d => s!"Unexpected(defect: {d}) at {t.display}"
  | .interrupted t f => s!"Interrupted by {f.display} at {t.display}"
  | .seq l r => s!"({display showError l} then {display showError r})"
  | .par l r => s!"({display showError l} | {display showError r})"
  | .traced c lbl => s!"{display showError c} [{lbl}]"

/-- The debug form of a cause, given the debug text of an error. -/
def debug (showError : ε → String) : Cause ε → String
  | .empty => "Empty"
  | .expected t e => "Expected \x7b time: " ++ t.debug ++ ", error: " ++ showError e ++ " \x7d"
  | .unexpected t d => "Unexpected \x7b time: " ++ t.debug ++ ", defect: Defect \x7b message: " ++
      Text.debugQuote d ++ " \x7d \x7d"
  | .interrupted t f => "Interrupted \x7b time: " ++ t.debug ++ ", fiber_id: " ++ f.debug ++ " \x7d"
  | .seq l r => s!"Sequential({debug showError l}, {debug showError r})"
  | .par l r => s!"Concurrent({debug showError l}, {debug showError r})"
  | .traced c lbl => s!"Traced({debug showError c}, {Text.debugQuote lbl})"

end Cause

end FiberEffects
