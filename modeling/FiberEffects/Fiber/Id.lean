import FiberEffects.Time.Basic

namespace FiberEffects

/-- The identity of a fiber: none for a root, or a sequence number and start time. -/
inductive FiberId where
  | none
  | live (seq : Nat) (start : Time)
  deriving DecidableEq, Inhabited

namespace FiberId

def display : FiberId → String
  | .none => "F-none"
  | .live seq _ => s!"F{seq}"

def debug : FiberId → String
  | .none => "FiberId(None)"
  | .live seq start => s!"FiberId({seq}@{start.display})"

def seq? : FiberId → Option Nat
  | .none => Option.none
  | .live seq _ => some seq

def start? : FiberId → Option Time
  | .none => Option.none
  | .live _ start => some start

end FiberId

/-- The identity of a fiber-reference slot. -/
structure RefId where
  num : Nat
  name : String
  deriving Inhabited

namespace RefId

def firstDynamic : Nat := 1024

def defaultServices : RefId := ⟨0, "DefaultServices"⟩

def display (r : RefId) : String := s!"{r.name}#{r.num}"

def debug (r : RefId) : String := s!"FiberRefId({r.display})"

end RefId

end FiberEffects
