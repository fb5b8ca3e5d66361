import FiberEffects.Sync.Future

namespace FiberEffects

namespace Cmd

def fiberExit (f : Nat) : Cmd (Option Exit) := read fun d => (d.fiber f).exit

def observe (f cb : Nat) : Cmd Nat := do
  match ← fiberExit f with
  | some exit => do
    discard <| call cb (.exit exit)
    newDisposable none
  | none => Val.toNat <$> Prog.ask (.observe f cb)

def interrupt (f : Nat) (requester : FiberId) : Cmd Unit :=
  discard <| Prog.ask (.interrupt f requester)

def addChild (s child : Nat) : Cmd Unit := do
  if (← fiberExit child).isSome then return
  let key ← modify (·.scopeAdd s child)
  let cb ← keepAction fun _ => update (·.scopeRemove s key)
  discard <| observe child cb

end Cmd

namespace Effect

def awaitDone (child : Nat) : Cmd Effect := do
  if (← Cmd.fiberExit child).isSome then return unit
  let done ← Cmd.newFuture none
  let cb ← Cmd.keepAction fun _ => discard <| Cmd.complete done unit
  discard <| Cmd.observe child cb
  pure (await done)

def interruptChildren (s : Nat) : Effect :=
  suspend do
    let children ← Cmd.read (·.children s)
    let owner ← Cmd.read (·.scopeId s)
    for c in children do Cmd.interrupt c owner
    pure (children.foldl (fun waits c => flatMap waits fun _ => awaitDone c) unit)

end Effect

end FiberEffects
