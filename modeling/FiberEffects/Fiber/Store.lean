import FiberEffects.Fiber.Scope

namespace FiberEffects

namespace StoreCell

def upsert {β : Type} (xs : List (RefId × β)) (r : RefId) (v : β) : List (RefId × β) :=
  if xs.any (·.1.num == r.num) then xs.map fun (k, w) => if k.num == r.num then (k, v) else (k, w)
  else xs ++ [(r, v)]

def get? (c : StoreCell) (r : RefId) : Option Val :=
  (c.values.find? (·.1.num == r.num)).map (·.2)

def policy? (c : StoreCell) (r : RefId) : Option FiberRef :=
  c.policies.find? (·.id.num == r.num)

def setPolicy (c : StoreCell) (ref : FiberRef) : StoreCell :=
  if c.policies.any (·.id.num == ref.id.num) then
    { c with policies := c.policies.map fun p => if p.id.num == ref.id.num then ref else p }
  else { c with policies := c.policies ++ [ref] }

def keepPolicy (c : StoreCell) (ref : FiberRef) : StoreCell :=
  if c.policies.any (·.id.num == ref.id.num) then c else { c with policies := c.policies ++ [ref] }

def putValue (c : StoreCell) (r : RefId) (v : Val) : StoreCell :=
  { c with values := upsert c.values r v }

def set (c : StoreCell) (ref : FiberRef) (v : Val) : StoreCell :=
  (c.putValue ref.id v).setPolicy ref

def delete (c : StoreCell) (r : RefId) : Option Val × StoreCell :=
  (c.get? r, { c with values := c.values.filter (·.1.num != r.num),
                      policies := c.policies.filter (·.id.num != r.num) })

def entries (c : StoreCell) : List (RefId × Val × Option FiberRef) :=
  c.values.map fun (r, v) => (r, v, c.policy? r)

def initializing? (c : StoreCell) (r : RefId) : Option Nat :=
  (c.initializing.find? (·.1.num == r.num)).map (·.2)

def debug (c : StoreCell) : String :=
  s!"FiberRefs \x7b values: {c.values.length}, initializing: {c.initializing.length} \x7d"

end StoreCell

namespace FiberRef

def services : FiberRef := { id := RefId.defaultServices, initial := none }

def initialEffect (r : FiberRef) : Effect :=
  match r.initial with
  | some slot => Effect.stored slot
  | none => Effect.die "default services are not installed"

def debug (r : FiberRef) : String := s!"FiberRef \x7b id: {r.id.debug} \x7d"

end FiberRef

namespace Cmd

def updateStore (s : Nat) (f : StoreCell → StoreCell) : Cmd Unit :=
  update fun d => d.setStore s (f (d.store s))

def storeGet? (s : Nat) (r : RefId) : Cmd (Option Val) := read fun d => (d.store s).get? r

def storeSet (s : Nat) (ref : FiberRef) (v : Val) : Cmd Unit := updateStore s (·.set ref v)

def storeDelete (s : Nat) (ref : FiberRef) : Cmd (Option Val) :=
  modify fun d => let (old, c) := (d.store s).delete ref.id; (old, d.setStore s c)

def forkValue (p : FiberRef) (v : Val) : Cmd (Option Val) :=
  match p.fork with
  | .copy => pure (some v)
  | .drop => pure none
  | .custom fn => Val.toOption <$> call fn v

def joinValues (p : FiberRef) (current incoming : Val) : Cmd Val :=
  match p.join with
  | .keepParent => pure current
  | .custom fn => call fn (.list [current, incoming])

/-- A new store with what a child fiber inherits: each value passes through its fork policy;
a value without a recorded policy is copied as it is. -/
def forkStore (s : Nat) : Cmd Nat := do
  let entries : List (RefId × Val × Option FiberRef) ← read fun d => (d.store s).entries
  let mut cell : StoreCell := {}
  for (r, v, policy) in entries do
    match policy with
    | none => cell := cell.putValue r v
    | some p =>
      match ← forkValue p v with
      | some v => cell := (cell.putValue r v).setPolicy p
      | none => pure ()
  modify (·.newStore cell)

/-- Merges a child store into a parent: each value is joined with the parent's by the child's
policy, or kept as the parent's without one, or taken when the parent has none. -/
def joinInto (child parent : Nat) : Cmd Unit := do
  if child == parent then return
  let entries : List (RefId × Val × Option FiberRef) ← read fun d => (d.store child).entries
  for (r, incoming, policy) in entries do
    let merged ← match ← storeGet? parent r, policy with
      | some current, some p => joinValues p current incoming
      | some current, none => pure current
      | none, _ => pure incoming
    updateStore parent fun c =>
      let c := c.putValue r merged
      match policy with
      | some p => c.keepPolicy p
      | none => c

end Cmd

namespace Effect

/-- The first value of a reference in a store: runs its initial effect once, and readers that
come meanwhile wait for the same result. -/
def firstValue (s : Nat) (ref : FiberRef) : Cmd Effect := do
  Cmd.updateStore s (·.setPolicy ref)
  match ← Cmd.read fun d => (d.store s).initializing? ref.id with
  | some fut => pure (await fut)
  | none =>
    let fut ← Cmd.newFuture none
    Cmd.updateStore s fun c => { c with initializing := c.initializing ++ [(ref.id, fut)] }
    pure <| flatMap (attempt ref.initialEffect) fun v => do
      let exit : Exit := match v with
        | .exit e => e
        | v => .ok v
      match exit with
      | .ok value => Cmd.storeSet s ref value
      | .error _ => pure ()
      Cmd.updateStore s fun c =>
        { c with initializing := c.initializing.filter (·.1.num != ref.id.num) }
      let settled := fromExit exit
      discard <| Cmd.complete fut settled
      pure settled

def storeGet (s : Nat) (ref : FiberRef) : Effect :=
  suspend do
    match ← Cmd.storeGet? s ref.id with
    | some v => pure (of v)
    | none => firstValue s ref

def refGet (ref : FiberRef) : Effect := flatMap getStore fun s => pure (storeGet s.toNat ref)

def refSet (ref : FiberRef) (v : Val) : Effect :=
  map getStore fun s => do
    Cmd.storeSet s.toNat ref v
    pure .unit

def refModify (ref : FiberRef) (f : Val → Cmd (Val × Val)) : Effect :=
  flatMap getStore fun s => pure <| map (storeGet s.toNat ref) fun current => do
    let (result, next) ← f current
    Cmd.storeSet s.toNat ref next
    pure result

def refUpdate (ref : FiberRef) (f : Val → Cmd Val) : Effect :=
  refModify ref fun current => do return (.unit, ← f current)

def refDelete (ref : FiberRef) : Effect :=
  map getStore fun s => do return .opt (← Cmd.storeDelete s.toNat ref)

/-- Runs an effect with a reference set to a value, restoring the previous value (or its
absence) on both paths. -/
def refLocally (ref : FiberRef) (v : Val) (e : Effect) : Effect :=
  flatMap getStore fun s => do
    let s := s.toNat
    let previous ← Cmd.storeGet? s ref.id
    Cmd.storeSet s ref v
    let restore : Cmd Unit := match previous with
      | some p => Cmd.storeSet s ref p
      | none => discard <| Cmd.storeDelete s ref
    pure <| fold e (fun c => do restore; pure (failCause c)) (fun r => do restore; pure (of r))

def inherit (child : Nat) : Effect :=
  map getStore fun parent => do
    Cmd.joinInto child parent.toNat
    pure .unit

end Effect

end FiberEffects
