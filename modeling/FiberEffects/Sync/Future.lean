import FiberEffects.Effect.Combinators

namespace FiberEffects

namespace Cmd

def dispose (k : Nat) : Cmd Unit := discard <| Prog.ask (.dispose k)

def newGroup : Cmd Nat := modify (·.newGroup)

def groupAdd (g member : Nat) : Cmd Nat := do
  match ← modify (·.groupAdd g member) with
  | some key => newDisposable (some (.detach g key))
  | none => do
    dispose member
    newDisposable none

def groupDispose (g : Nat) : Cmd Unit := do
  let members ← modify (·.groupTake g)
  for m in members do dispose m

def newFuture (resolved : Option Effect) : Cmd Nat := Val.toNat <$> Prog.ask (.newFuture resolved)

def complete (k : Nat) (e : Effect) : Cmd Bool := Val.toBool <$> Prog.ask (.complete k e)

def watch (k cb : Nat) : Cmd Nat := do
  match ← Prog.ask (.watch k cb) with
  | .effect slot => do
    discard <| call cb (.effect slot)
    newDisposable none
  | w => newDisposable (some (.unwatch w.toNat))

end Cmd

end FiberEffects
