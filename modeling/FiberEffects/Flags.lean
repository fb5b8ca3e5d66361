namespace FiberEffects

/-- The flags a fiber runs under. -/
structure Flags where
  interruptible : Bool
  trace : Bool
  deriving DecidableEq, Inhabited

namespace Flags

def default : Flags := ⟨true, true⟩

def debug (f : Flags) : String :=
  s!"RuntimeFlags \x7b interrupt_status: {f.interruptible}, should_trace: {f.trace} \x7d"

end Flags

end FiberEffects
