import FiberEffects.Protocol.Timing
import FiberEffects.Host.Run
import FiberEffects.Sync.Future
import FiberEffects.Heap.Debug

namespace FiberEffects.Protocol

/-- The disposables and groups a request has made, by number. -/
structure Handles where
  disposables : Array Nat := #[]
  groups : Array Nat := #[]

namespace Handles

def disposable (h : Handles) (i : Nat) : Machine Nat :=
  match h.disposables[i]? with
  | some k => pure k
  | none => throw (.panic "bad input: no such disposable")

def group (h : Handles) (i : Nat) : Machine Nat :=
  match h.groups[i]? with
  | some g => pure g
  | none => throw (.panic "bad input: no such group")

def addDisposable (h : Handles) (k : Nat) : Json × Handles :=
  (.nat h.disposables.size, { h with disposables := h.disposables.push k })

def field {α : Type} : Decode α → Machine α
  | .ok a => pure a
  | .error m => throw (.panic m)

/-- One operation and its result, named by the first of its keys whose value is not `null`. -/
def step (h : Handles) (j : Json) : Machine (Json × Handles) := do
  if (opt j "new").isSome then
    let label ← field (reqStr j "new")
    let k ← Host.run (Cmd.disposableOf (Cmd.log (.str label)))
    return h.addDisposable k
  if (opt j "none").isSome then
    return h.addDisposable (← Host.run (Cmd.newDisposable none))
  if (opt j "dispose").isSome then
    Host.run (Cmd.dispose (← h.disposable (← field (reqNat j "dispose"))))
    return (.null, h)
  if (opt j "is_disposed").isSome then
    let k ← h.disposable (← field (reqNat j "is_disposed"))
    return (.bool ((← Machine.data).isDisposed k), h)
  if (opt j "group").isSome then
    let g ← Host.run Cmd.newGroup
    return (.nat h.groups.size, { h with groups := h.groups.push g })
  if (opt j "group_add").isSome then
    let g ← h.group (← field (reqNat j "group_add"))
    let m ← h.disposable (← field (reqNat j "member"))
    return h.addDisposable (← Host.run (Cmd.groupAdd g m))
  if (opt j "group_dispose").isSome then
    Host.run (Cmd.groupDispose (← h.group (← field (reqNat j "group_dispose"))))
    return (.null, h)
  if (opt j "group_as_disposable").isSome then
    let g ← h.group (← field (reqNat j "group_as_disposable"))
    return h.addDisposable (← Host.run (Cmd.newDisposable (some (.disposeGroup g))))
  if (opt j "group_state").isSome then
    let cell := (← Machine.data).groups[← h.group (← field (reqNat j "group_state"))]?.getD {}
    return (.mkObj [("len", .nat cell.members.length), ("empty", .bool cell.members.isEmpty),
      ("disposed", .bool cell.disposed)], h)
  throw (.panic "bad input: unknown disposable op")

def runAll (h : Handles) : List Json → Machine (List Json)
  | [] => pure []
  | op :: ops => do
    let before := (← Machine.data).log.size
    let (r, h) ← h.step op
    let released := (← Machine.data).log.toList.drop before
    return .mkObj [("r", r), ("released", .arr released)] :: (← runAll h ops)

end Handles

def disposableAnswer (j : Json) : Decode Json := do
  let ops ← reqList j "ops"
  match ((({} : Handles).runAll ops).run.run {}).1 with
  | .ok entries => pure (.arr entries)
  | .error (.panic m) => .error m
  | .error .outOfFuel => .error "out of fuel"

end FiberEffects.Protocol
