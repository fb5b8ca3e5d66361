import FiberEffects.Sync.Future

namespace FiberEffects

namespace Cmd

def resourceClosed (r : Nat) : Cmd Bool := read fun d => (d.resource r).closed

def resourceExit (r : Nat) : Cmd (Option Exit) := read fun d => (d.resource r).exit

end Cmd

namespace Effect

def afterFinalizer (exit result : Exit) : Exit :=
  match exit, result with
  | exit, .ok _ => exit
  | .ok _, .error c => .error c
  | .error p, .error c => .error (p.combine c)

def exitOf : Val → Exit
  | .exit e => e
  | v => .ok v

def release (finalizers : List Nat) : Nat → Exit → Effect
  | 0, exit => of (.exit exit)
  | i + 1, exit =>
    let fin := finalizers.getD i 0
    flatMap (suspend do return attempt (stored (← Cmd.build fin (.exit exit)))) fun result =>
      pure (release finalizers i (afterFinalizer exit (exitOf result)))

/-- Adds a finalizer (a kept builder given the closing exit); the disposable that removes it. -/
def addFinalizer (r : Nat) (fin : Nat) : Effect :=
  suspend do
    if ← Cmd.resourceClosed r then
      let exit := ((← Cmd.resourceExit r).getD (.ok .unit))
      let slot ← Cmd.build fin (.exit exit)
      pure (map (attempt (stored slot)) fun _ => do return .disposable (← Cmd.newDisposable none))
    else
      let key : Nat ← Cmd.modify fun d =>
        let cell := d.resource r
        (cell.nextKey, d.setResource r
          { cell with finalizers := cell.finalizers ++ [(cell.nextKey, fin)], nextKey := cell.nextKey + 1 })
      pure (of (.disposable (← Cmd.newDisposable (some (.dropFinalizer r key)))))

/-- Closes a scope with an exit; false if it was closing already. -/
def close (r : Nat) (exit : Exit) : Effect :=
  uninterruptible <| suspend do
    if (← Cmd.resourceExit r).isSome then return of (.bool false)
    let fins : List Nat ← Cmd.modify fun d =>
      let cell := d.resource r
      (cell.finalizers.map (·.2), d.setResource r { cell with exit := some exit, finalizers := [] })
    pure <| map (release fins fins.length exit) fun final => do
      Cmd.update fun d => d.setResource r { d.resource r with exit := some (exitOf final), closed := true }
      pure (.bool true)

/-- Runs a body with a fresh scope, closing it with the body's exit. -/
def withScope (body : Nat → Cmd Effect) : Effect :=
  flatMap getFlags fun flags => do
    let r ← Cmd.modify (·.newResource)
    let inner ← body r
    let interruptible := match flags with
      | .flags f => f.interruptible
      | _ => true
    pure <| uninterruptible <| flatMap (attempt (setInterruptible inner interruptible)) fun v =>
      let exit := exitOf v
      let unitExit : Exit := match exit with
        | .ok _ => .ok .unit
        | .error c => .error c
      pure <| flatMap (close r unitExit) fun _ => do
        match ← Cmd.resourceExit r with
        | some (.error c) => pure (failCause c)
        | _ => pure (fromExit exit)

end Effect

end FiberEffects
