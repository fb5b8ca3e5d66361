import FiberEffects.Fiber.Store

namespace FiberEffects

namespace Cmd

def newFiber (e : Effect) (id : FiberId) (opts : Options) : Cmd Nat :=
  Val.toNat <$> Prog.ask (.newFiber e id opts)

def start (f : Nat) : Cmd Bool := Val.toBool <$> Prog.ask (.start f)

/-- Forks a started child of the options' scope, or of the root scope service for a daemon;
the child, or the defect that prevented it. -/
def spawn (e : Effect) (opts : Options) (daemon : Bool) : Cmd (Except String Nat) := do
  let ids : Option Nat ← read fun d => d.service opts.context opts.store (·.ids)
  match ids with
  | none => pure (.error "cannot fork: no IdGenerator service")
  | some ids =>
    let startTime ← read fun d => d.unixTimeIn opts.context opts.store
    let seq ← modify (·.nextId ids)
    let id := FiberId.live seq startTime
    let parent : Option Nat ←
      if daemon then read fun d => d.service opts.context opts.store (·.rootScope)
      else pure (some opts.scope)
    match parent with
    | none => pure (.error "cannot fork daemon: no root scope")
    | some parent =>
      let scope ← modify (·.newScope id)
      let store ← forkStore opts.store
      let child ← newFiber e id { opts with scope, store }
      addChild parent child
      discard <| start child
      pure (.ok child)

end Cmd

namespace Effect

def forkIn (e : Effect) (daemon : Bool) : Effect :=
  flatMap getOptions fun o =>
    match o with
    | .options opts => do
      match ← Cmd.spawn e opts daemon with
      | .ok f => pure (of (.fiber f))
      | .error m => pure (die m)
    | _ => pure unit

def fork (e : Effect) : Effect := forkIn e false

def forkDaemon (e : Effect) : Effect := forkIn e true

/-- Waits for a fiber's exit. -/
def fiberExit (f : Nat) : Effect :=
  suspend do
    match ← Cmd.fiberExit f with
    | some exit => pure (of (.exit exit))
    | none =>
      let fut ← Cmd.newFuture none
      let cb ← Cmd.keepAction fun v => discard <| Cmd.complete fut (of v)
      discard <| Cmd.observe f cb
      pure (await fut)

def join (f : Nat) : Effect :=
  flatMap (fiberExit f) fun v => do
    let refs ← Cmd.read fun d => (d.fiber f).baseStore
    pure <| flatMap (inherit refs) fun _ =>
      pure (fromExit (match v with
        | .exit e => e
        | v => .ok v))

def interruptFiber (f : Nat) : Effect :=
  flatMap fiberId fun requester => do
    Cmd.interrupt f (Answer.ofVal requester)
    pure (fiberExit f)

end Effect

end FiberEffects
