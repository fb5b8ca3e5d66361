import FiberEffects.Cause.Equiv
import FiberEffects.Cause.Render
import FiberEffects.Script.Expr
import FiberEffects.Script.CauseJson

namespace FiberEffects.Protocol

open Script

def causeDisplay (c : Cause Json) : String := c.display Json.compact

/-- Readings of a cause, and the optional comparisons asked for. -/
def causeAnswer (j : Json) : Decode Json := do
  let c ← causeOfJson (← req j "cause")
  let base : List (String × Json) :=
    [("cause", causeJson c), ("display", .str (causeDisplay c)),
     ("error_display", .str ("effect failed: " ++ causeDisplay c)),
     ("is_empty", .bool c.isEmpty), ("is_interrupted", .bool c.isInterrupted),
     ("is_interrupted_only", .bool c.isInterruptedOnly), ("failures", .arr c.failures),
     ("defects", .arr (c.defects.map Json.str)), ("interruptors", .arr (c.interruptors.map fiberIdJson))]
  let other ← match opt j "other" with
    | some o => do
      let d ← causeOfJson o
      let combined := Cause.combine c d
      pure [("eq", .bool (c.equiv d)), ("combined", causeJson combined),
        ("combined_display", .str (causeDisplay combined))]
    | none => pure []
  let roundtrip := if (← optBool j "error_roundtrip") == some true then
      [("error_debug", .str ("CauseError \x7b cause: " ++ c.debug Json.compact ++ " \x7d")),
       ("roundtrip", causeJson c)]
    else []
  let mapped ← match opt j "map" with
    | some m => do
      let bind ← reqStr m "bind"
      let value := Expr.ofJson (← req m "value")
      match c.mapM (fun e => value.eval [(bind, e)]) with
      | .ok c' => pure [("mapped", causeJson c')]
      | .error msg => .error msg
    | none => pure []
  pure (.mkObj (base ++ other ++ mapped ++ roundtrip))

end FiberEffects.Protocol
