import FiberEffects.Fiber.Store
import FiberEffects.Proofs.CmdContract

namespace FiberEffects

namespace StoreCell

variable {c : StoreCell}

theorem get?_setPolicy (c : StoreCell) (p : FiberRef) (r : RefId) : (c.setPolicy p).get? r = c.get? r := by
  unfold setPolicy
  split <;> rfl

theorem get?_keepPolicy (c : StoreCell) (p : FiberRef) (r : RefId) : (c.keepPolicy p).get? r = c.get? r := by
  unfold keepPolicy
  split <;> rfl

theorem policy?_putValue (c : StoreCell) (r r' : RefId) (v : Val) : (c.putValue r v).policy? r' = c.policy? r' :=
  rfl

theorem find?_replaceOrAppend {α : Type} (κ : α → Nat) (xs : List α) (n m : Nat) (g : α → α) (x : α)
    (hg : ∀ y, κ y = n → κ (g y) = n) (hx : κ x = n) :
    (if xs.any (fun y => κ y == n) then xs.map (fun y => if κ y == n then g y else y) else xs ++ [x]).find?
        (fun y => κ y == m) =
      if m = n then some ((xs.find? (fun y => κ y == n)).elim x g) else xs.find? (fun y => κ y == m) := by
  split
  · next hany =>
    -- replaced entries keep their numbers, so the lookup sees through the replacement
    have hkey : ((fun y => κ y == m) ∘ fun y => if κ y == n then g y else y) = fun y => κ y == m := by
      funext y
      simp only [Function.comp]
      split
      · next hy => rw [hg y (beq_iff_eq.1 hy), beq_iff_eq.1 hy]
      · rfl
    rw [List.find?_map, hkey]
    split
    · next heq =>
      subst heq
      obtain ⟨y, hy, hyn⟩ := List.any_eq_true.1 hany
      obtain ⟨z, hz⟩ : ∃ z, xs.find? (fun y => κ y == m) = some z :=
        Option.isSome_iff_exists.1 (List.find?_isSome.2 ⟨y, hy, hyn⟩)
      have hzn : κ z = m := by simpa using List.find?_some hz
      simp [hz, hzn]
    · next hne =>
      cases hz : xs.find? (fun y => κ y == m) with
      | none => rfl
      | some z =>
        have hzn : κ z ≠ n := by
          have : κ z = m := by simpa using List.find?_some hz
          omega
        simp [hzn]
  · next hany =>
    rw [List.find?_append]
    split
    · next heq =>
      subst heq
      have hnone : xs.find? (fun y => κ y == m) = none := by
        rw [List.find?_eq_none]
        intro y hy
        simpa using List.any_eq_false.1 (Bool.eq_false_iff.2 hany) y hy
      simp [hnone, hx]
    · next hne =>
      have hlast : [x].find? (fun y => κ y == m) = none := by
        simp [hx, Ne.symm hne]
      rw [hlast, Option.or_none]

/-- Setting a value puts it in the slot of its number and leaves every other slot. -/
theorem get?_putValue (c : StoreCell) (r r' : RefId) (v : Val) :
    (c.putValue r v).get? r' = if r'.num = r.num then some v else c.get? r' := by
  have hupsert : upsert c.values r v = if c.values.any (fun x => x.1.num == r.num) then
      c.values.map (fun x => if x.1.num == r.num then (x.1, v) else x) else c.values ++ [(r, v)] := rfl
  rw [get?, putValue]
  dsimp only
  rw [hupsert, find?_replaceOrAppend (fun x : RefId × Val => x.1.num) c.values r.num r'.num (fun x => (x.1, v)) (r, v)
    (fun _ h => h) rfl]
  split
  · cases c.values.find? (fun x => x.1.num == r.num) <;> rfl
  · rfl

/-- Dropping the items of one number leaves nothing under it and every other number as it was. -/
theorem find?_filter_num {α : Type} (κ : α → Nat) (xs : List α) (n m : Nat) :
    (xs.filter (fun y => κ y != n)).find? (fun y => κ y == m) =
      if m = n then none else xs.find? (fun y => κ y == m) := by
  rw [List.find?_filter]
  split
  · next hmn =>
    subst hmn
    exact List.find?_eq_none.2 fun y _ => by simp
  · next hmn =>
    congr 1
    funext y
    by_cases hy : κ y = m
    · simp [hy, hmn]
    · simp [hy]

theorem policy?_delete (c : StoreCell) (r r' : RefId) :
    (c.delete r).2.policy? r' = if r'.num = r.num then none else c.policy? r' :=
  find?_filter_num (fun q : FiberRef => q.id.num) c.policies r.num r'.num

theorem get?_delete (c : StoreCell) (r r' : RefId) :
    (c.delete r).2.get? r' = if r'.num = r.num then none else c.get? r' := by
  unfold delete get?
  dsimp only
  rw [find?_filter_num (fun x : RefId × Val => x.1.num) c.values r.num r'.num]
  split <;> rfl

theorem get?_set (c : StoreCell) (p : FiberRef) (v : Val) (r : RefId) :
    (c.set p v).get? r = if r.num = p.id.num then some v else c.get? r := by
  rw [set, get?_setPolicy, get?_putValue]

/-- Recording a reference's policies makes them the ones of its number. -/
theorem policy?_setPolicy (c : StoreCell) (p : FiberRef) (r : RefId) :
    (c.setPolicy p).policy? r = if r.num = p.id.num then some p else c.policy? r := by
  have hpolicies : (c.setPolicy p).policies = if c.policies.any (fun q => q.id.num == p.id.num) then
      c.policies.map (fun q => if q.id.num == p.id.num then p else q) else c.policies ++ [p] := by
    unfold setPolicy
    split <;> rfl
  rw [policy?, hpolicies, find?_replaceOrAppend (fun q : FiberRef => q.id.num) c.policies p.id.num r.num (fun _ => p) p
    (fun _ _ => rfl) rfl]
  split
  · cases c.policies.find? (fun q => q.id.num == p.id.num) <;> rfl
  · rfl

/-- Keeping a reference's policies records them only where its number had none. -/
theorem policy?_keepPolicy (c : StoreCell) (p : FiberRef) (r : RefId) :
    (c.keepPolicy p).policy? r = if r.num = p.id.num then (c.policy? r).or (some p) else c.policy? r := by
  unfold keepPolicy
  split
  · next hany =>
    split
    · next heq =>
      obtain ⟨x, hx, hxp⟩ := List.any_eq_true.1 hany
      obtain ⟨y, hy⟩ : ∃ y, c.policy? r = some y :=
        Option.isSome_iff_exists.1 (List.find?_isSome.2 ⟨x, hx, by simpa [heq] using hxp⟩)
      rw [hy]
      rfl
    · rfl
  · next hany =>
    have h := policy?_setPolicy c p r
    unfold setPolicy at h
    rw [if_neg hany] at h
    rw [h]
    split
    · next heq =>
      have hnone : c.policy? r = none := by
        unfold policy?
        rw [List.find?_eq_none]
        intro q hq
        have := List.any_eq_false.1 (Bool.eq_false_iff.2 hany) q hq
        simpa [heq] using this
      rw [hnone]
      rfl
    · rfl

end StoreCell

namespace Data

variable {d : Data} {s s' : Nat} {cell cell' : StoreCell}

@[simp] theorem size_setStore : (d.setStore s cell).stores.size = d.stores.size := by
  simp [setStore, modifyAt]

theorem store_setStore_self (hs : s < d.stores.size) : (d.setStore s cell).store s = cell := by
  simp [store, setStore, modifyAt, hs, Array.getElem_modify]

theorem store_setStore_of_ne (hne : s ≠ s') : (d.setStore s cell).store s' = d.store s' := by
  simp [store, setStore, modifyAt, Array.getElem?_modify, hne]

@[simp] theorem setStore_setStore : (d.setStore s cell).setStore s cell' = d.setStore s cell' := by
  simp only [setStore, modifyAt]
  congr 1
  apply Array.ext_getElem?
  intro i
  simp only [Array.getElem?_modify]
  split
  · rw [Option.map_map]
    rfl
  · rfl

theorem setStore_store_self (s : Nat) : d.setStore s (d.store s) = d := by
  have : d.stores.modify s (fun _ => d.store s) = d.stores := by
    apply Array.ext_getElem?
    intro i
    rw [Array.getElem?_modify]
    split
    · next hsi =>
      subst hsi
      cases hi : d.stores[s]? <;> simp [store, hi]
    · rfl
  simp [setStore, modifyAt, this]

theorem setStore_of_le (hs : d.stores.size ≤ s) : d.setStore s cell = d := by
  have : d.stores.modify s (fun _ => cell) = d.stores := by
    simp [Array.modify, Array.modifyM, Nat.not_lt.2 hs]
  simp [setStore, modifyAt, this]

theorem store_newStore_self (cell : StoreCell) : (d.newStore cell).2.store d.stores.size = cell := by
  simp [newStore, store]

theorem store_newStore_of_lt (cell : StoreCell) (hs : s < d.stores.size) : (d.newStore cell).2.store s = d.store s := by
  simp [newStore, store, Array.getElem?_push, Nat.ne_of_lt hs]

@[simp] theorem guard_setStore : d.guard (d.setStore s cell) = d.setStore s cell :=
  guard_of_extends rfl rfl rfl rfl Array.append_empty.symm

@[simp] theorem guard_newStore : d.guard (d.newStore cell).2 = (d.newStore cell).2 :=
  guard_of_extends rfl rfl rfl rfl Array.append_empty.symm

end Data

namespace Answer

@[simp] theorem ofVal_toVal_optionVal (o : Option Val) : (ofVal (toVal o) : Option Val) = o := by
  cases o <;> rfl

@[simp] theorem ofVal_toVal_entries (xs : List (RefId × Val × Option FiberRef)) :
    (ofVal (toVal xs) : List (RefId × Val × Option FiberRef)) = xs := by
  show (Val.list (xs.map toVal)).toList.map ofVal = xs
  rw [Val.toList, List.map_map]
  refine List.map_id'' (fun x => ?_) xs
  obtain ⟨r, v, o⟩ := x
  cases o <;> rfl

end Answer

namespace FiberRef

def forkOf (w : Nat → Val → Val) (p : FiberRef) (v : Val) : Option Val :=
  match p.fork with
  | .copy => some v
  | .drop => none
  | .custom fn => (w fn v).toOption

def joinOf (w : Nat → Val → Val) (p : FiberRef) (current incoming : Val) : Val :=
  match p.join with
  | .keepParent => current
  | .custom fn => w fn (.list [current, incoming])

end FiberRef

namespace StoreCell

def forkEntry (w : Nat → Val → Val) (cell : StoreCell) : RefId × Val × Option FiberRef → StoreCell
  | (r, v, none) => cell.putValue r v
  | (r, v, some p) =>
    match p.forkOf w v with
    | some v' => (cell.putValue r v').setPolicy p
    | none => cell

def forked (w : Nat → Val → Val) (c : StoreCell) : StoreCell := c.entries.foldl (forkEntry w) {}

def mergedValue (w : Nat → Val → Val) (current : Option Val) (policy : Option FiberRef) (incoming : Val) : Val :=
  match current, policy with
  | some current, some p => p.joinOf w current incoming
  | some current, none => current
  | none, _ => incoming

def joinEntry (w : Nat → Val → Val) (parent : StoreCell) : RefId × Val × Option FiberRef → StoreCell
  | (r, incoming, policy) =>
    let merged := mergedValue w (parent.get? r) policy incoming
    match policy with
    | some p => (parent.putValue r merged).keepPolicy p
    | none => parent.putValue r merged

def joined (w : Nat → Val → Val) (child parent : StoreCell) : StoreCell := child.entries.foldl (joinEntry w) parent

def Keyed (c : StoreCell) : Prop := (c.values.map (·.1.num)).Nodup

theorem keyed_empty : ({} : StoreCell).Keyed := List.nodup_nil

theorem keyed_putValue {c : StoreCell} (hc : c.Keyed) (r : RefId) (v : Val) : (c.putValue r v).Keyed := by
  unfold Keyed putValue upsert
  dsimp only
  split
  · have hnum : (fun x : RefId × Val => x.1.num) ∘ (fun x : RefId × Val =>
        if x.1.num == r.num then (x.1, v) else (x.1, x.2)) = fun x => x.1.num := by
      funext x
      simp only [Function.comp]
      split <;> rfl
    rwa [List.map_map, hnum]
  · next hany =>
    rw [List.map_append, List.nodup_append]
    refine ⟨hc, List.nodup_singleton _, fun a ha b hb => ?_⟩
    obtain ⟨x, hx, rfl⟩ := List.mem_map.1 ha
    have hb' : b = r.num := by simpa using hb
    have hxr := List.any_eq_false.1 (Bool.eq_false_iff.2 hany) x hx
    subst hb'
    simpa using hxr

theorem keyed_setPolicy {c : StoreCell} (hc : c.Keyed) (p : FiberRef) : (c.setPolicy p).Keyed := by
  unfold setPolicy
  split <;> exact hc

theorem keyed_keepPolicy {c : StoreCell} (hc : c.Keyed) (p : FiberRef) : (c.keepPolicy p).Keyed := by
  unfold keepPolicy
  split <;> exact hc

theorem keyed_delete {c : StoreCell} (hc : c.Keyed) (r : RefId) : (c.delete r).2.Keyed :=
  hc.sublist (List.filter_sublist.map _)

theorem keyed_foldl {step : StoreCell → RefId × Val × Option FiberRef → StoreCell}
    (hstep : ∀ acc x, acc.Keyed → (step acc x).Keyed) (xs : List (RefId × Val × Option FiberRef)) :
    ∀ acc : StoreCell, acc.Keyed → (xs.foldl step acc).Keyed := by
  induction xs with
  | nil => exact fun _ h => h
  | cons x xs ih => exact fun acc h => ih _ (hstep acc x h)

def OwnPolicy (x : RefId × Val × Option FiberRef) : Prop := ∀ p, x.2.2 = some p → p.id.num = x.1.num

theorem get?_congr (c : StoreCell) {r r' : RefId} (h : r.num = r'.num) : c.get? r = c.get? r' := by
  unfold get?
  rw [h]

theorem policy?_congr (c : StoreCell) {r r' : RefId} (h : r.num = r'.num) : c.policy? r = c.policy? r' := by
  unfold policy?
  rw [h]

theorem view_foldl {γ : Type} (V : StoreCell → RefId → γ) {step : StoreCell → RefId × Val × Option FiberRef → StoreCell}
    {F : RefId × Val × Option FiberRef → γ → γ}
    (hstep : ∀ acc x r, OwnPolicy x → V (step acc x) r = if r.num = x.1.num then F x (V acc r) else V acc r)
    (r : RefId) (xs : List (RefId × Val × Option FiberRef)) (acc : StoreCell)
    (hnd : (xs.map (·.1.num)).Nodup) (hown : ∀ x ∈ xs, OwnPolicy x) :
    V (xs.foldl step acc) r = match xs.find? (·.1.num == r.num) with
      | some x => F x (V acc r)
      | none => V acc r := by
  induction xs generalizing acc with
  | nil => rfl
  | cons x xs ih =>
    rw [List.map_cons, List.nodup_cons] at hnd
    rw [List.foldl_cons, ih _ hnd.2 fun y hy => hown y (.tail _ hy), hstep acc x r (hown x (.head _))]
    by_cases hx : r.num = x.1.num
    · -- the later entries have other numbers, so the search stops at this one
      have hnone : xs.find? (·.1.num == r.num) = none := List.find?_eq_none.2 fun y hy => by
        have hy' : y.1.num ≠ x.1.num := fun he => hnd.1 (List.mem_map.2 ⟨y, hy, he⟩)
        simpa [hx] using hy'
      have hxr : (x.1.num == r.num) = true := beq_iff_eq.2 hx.symm
      simp only [hnone, if_pos hx, List.find?_cons, hxr]
    · have hxr : (x.1.num == r.num) = false := beq_eq_false_iff_ne.2 (Ne.symm hx)
      simp only [if_neg hx, List.find?_cons, hxr]

theorem entries_map_num (c : StoreCell) : c.entries.map (·.1.num) = c.values.map (·.1.num) := by
  simp [entries, Function.comp_def]

theorem ownPolicy_of_mem_entries {c : StoreCell} {x : RefId × Val × Option FiberRef} (hx : x ∈ c.entries) : OwnPolicy x := by
  obtain ⟨⟨k, v⟩, -, rfl⟩ := List.mem_map.1 hx
  intro p hp
  simpa using List.find?_some hp

/-- The entry of a number is its value with the policy of the number. -/
theorem find?_entries (c : StoreCell) (r : RefId) :
    c.entries.find? (·.1.num == r.num) =
      (c.values.find? (·.1.num == r.num)).map fun kv => (kv.1, kv.2, c.policy? r) := by
  unfold entries
  rw [List.find?_map]
  cases hy : c.values.find? (·.1.num == r.num) with
  | none => exact congrArg (Option.map _) hy
  | some y =>
    have hyr : y.1.num = r.num := by simpa using List.find?_some hy
    simp only [Function.comp_def]
    rw [hy, Option.map_some, Option.map_some, policy?_congr c hyr]

/-- What a store holds at a number, found through its entries. -/
theorem view_entries_foldl {γ : Type} (V : StoreCell → RefId → γ) {step : StoreCell → RefId × Val × Option FiberRef → StoreCell}
    {F : RefId × Val × Option FiberRef → γ → γ}
    (hstep : ∀ acc x r, OwnPolicy x → V (step acc x) r = if r.num = x.1.num then F x (V acc r) else V acc r)
    (c : StoreCell) (hc : c.Keyed) (r : RefId) (acc : StoreCell) :
    V (c.entries.foldl step acc) r = match c.values.find? (·.1.num == r.num) with
      | some kv => F (kv.1, kv.2, c.policy? r) (V acc r)
      | none => V acc r := by
  rw [view_foldl V hstep r _ acc (by rw [entries_map_num]; exact hc) fun x hx => ownPolicy_of_mem_entries hx,
    find?_entries]
  cases c.values.find? (·.1.num == r.num) <;> rfl

variable (w : Nat → Val → Val)

theorem get?_forkEntry (acc : StoreCell) (x : RefId × Val × Option FiberRef) (r : RefId) :
    (forkEntry w acc x).get? r = if r.num = x.1.num then
      (match x.2.2 with
        | none => some x.2.1
        | some p => (p.forkOf w x.2.1).or (acc.get? r))
      else acc.get? r := by
  obtain ⟨k, v, _ | p⟩ := x
  · exact get?_putValue acc k r v
  · dsimp only [forkEntry]
    split
    · next v' hv =>
      rw [hv, get?_setPolicy, get?_putValue]
      split <;> rfl
    · next hv =>
      rw [hv]
      split <;> rfl

theorem policy?_forkEntry (acc : StoreCell) (x : RefId × Val × Option FiberRef) (r : RefId) (hx : OwnPolicy x) :
    (forkEntry w acc x).policy? r = if r.num = x.1.num then
      (match x.2.2 with
        | none => acc.policy? r
        | some p => if (p.forkOf w x.2.1).isSome then some p else acc.policy? r)
      else acc.policy? r := by
  obtain ⟨k, v, _ | p⟩ := x
  · dsimp only [forkEntry]
    rw [policy?_putValue]
    split <;> rfl
  · have hp : p.id.num = k.num := hx p rfl
    dsimp only [forkEntry]
    split
    · next v' hv =>
      rw [hv, policy?_setPolicy, policy?_putValue, hp]
      split <;> rfl
    · next hv =>
      rw [hv]
      split <;> rfl

theorem get?_forked (c : StoreCell) (hc : c.Keyed) (r : RefId) :
    (c.forked w).get? r = match c.get? r, c.policy? r with
      | some v, some p => p.forkOf w v
      | some v, none => some v
      | none, _ => none := by
  unfold forked
  rw [view_entries_foldl get? (F := fun x o => match x.2.2 with
    | none => some x.2.1
    | some p => (p.forkOf w x.2.1).or o) (fun acc x r _ => get?_forkEntry w acc x r) c hc r]
  unfold get?
  cases c.values.find? (·.1.num == r.num) with
  | none => rfl
  | some kv =>
    cases c.policy? r with
    | none => rfl
    | some p => exact Option.or_none

theorem policy?_forked (c : StoreCell) (hc : c.Keyed) (r : RefId) :
    (c.forked w).policy? r = match c.get? r, c.policy? r with
      | some v, some p => if (p.forkOf w v).isSome then some p else none
      | _, _ => none := by
  unfold forked
  rw [view_entries_foldl policy? (F := fun x o => match x.2.2 with
    | none => o
    | some p => if (p.forkOf w x.2.1).isSome then some p else o) (policy?_forkEntry w) c hc r]
  unfold get?
  cases c.values.find? (·.1.num == r.num) with
  | none => rfl
  | some kv => cases c.policy? r <;> rfl


theorem get?_joinEntry (acc : StoreCell) (x : RefId × Val × Option FiberRef) (r : RefId) :
    (joinEntry w acc x).get? r =
      if r.num = x.1.num then some (mergedValue w (acc.get? r) x.2.2 x.2.1) else acc.get? r := by
  obtain ⟨k, inc, _ | p⟩ := x
  · dsimp only [joinEntry]
    rw [get?_putValue]
    split
    · next hk => rw [get?_congr acc hk]
    · rfl
  · dsimp only [joinEntry]
    rw [get?_keepPolicy, get?_putValue]
    split
    · next hk => rw [get?_congr acc hk]
    · rfl

theorem policy?_joinEntry (acc : StoreCell) (x : RefId × Val × Option FiberRef) (r : RefId) (hx : OwnPolicy x) :
    (joinEntry w acc x).policy? r = if r.num = x.1.num then
      (match x.2.2 with
        | some q => (acc.policy? r).or (some q)
        | none => acc.policy? r)
      else acc.policy? r := by
  obtain ⟨k, inc, _ | p⟩ := x
  · dsimp only [joinEntry]
    rw [policy?_putValue]
    split <;> rfl
  · have hp : p.id.num = k.num := hx p rfl
    dsimp only [joinEntry]
    rw [policy?_keepPolicy, policy?_putValue, hp]

theorem get?_joined (c p : StoreCell) (hc : c.Keyed) (r : RefId) :
    (c.joined w p).get? r = match c.get? r with
      | some incoming => some (mergedValue w (p.get? r) (c.policy? r) incoming)
      | none => p.get? r := by
  unfold joined
  rw [view_entries_foldl get? (F := fun x o => some (mergedValue w o x.2.2 x.2.1))
    (fun acc x r _ => get?_joinEntry w acc x r) c hc r]
  unfold get?
  cases c.values.find? (·.1.num == r.num) <;> rfl

theorem policy?_joined (c p : StoreCell) (hc : c.Keyed) (r : RefId) :
    (c.joined w p).policy? r = match c.get? r, c.policy? r with
      | some _, some q => (p.policy? r).or (some q)
      | _, _ => p.policy? r := by
  unfold joined
  rw [view_entries_foldl policy? (F := fun x o => match x.2.2 with
    | some q => o.or (some q)
    | none => o) (policy?_joinEntry w) c hc r]
  unfold get?
  cases c.values.find? (·.1.num == r.num) with
  | none => rfl
  | some kv => cases c.policy? r <;> rfl

/-- A forked store has one value a number, whatever store it came from. -/
theorem keyed_forked (c : StoreCell) : (c.forked w).Keyed := by
  refine keyed_foldl (fun acc x hacc => ?_) c.entries {} keyed_empty
  obtain ⟨k, v, _ | p⟩ := x
  · exact keyed_putValue hacc k v
  · dsimp only [forkEntry]
    split
    · exact keyed_setPolicy (keyed_putValue hacc k _) p
    · exact hacc

theorem keyed_joinEntry {parent : StoreCell} (hp : parent.Keyed) (x : RefId × Val × Option FiberRef) :
    (parent.joinEntry w x).Keyed := by
  obtain ⟨k, inc, _ | q⟩ := x
  · exact keyed_putValue hp k _
  · exact keyed_keepPolicy (keyed_putValue hp k _) q

theorem keyed_joined (c : StoreCell) {p : StoreCell} (hp : p.Keyed) : (c.joined w p).Keyed :=
  keyed_foldl (fun _ x hacc => keyed_joinEntry w hacc x) c.entries p hp

end StoreCell

namespace Data

def mergeStore (w : Nat → Val → Val) (d : Data) (child parent : Nat) : Data :=
  if child = parent then d else d.setStore parent ((d.store child).joined w (d.store parent))

theorem mergeStore_self (w : Nat → Val → Val) (d : Data) (s : Nat) : d.mergeStore w s s = d :=
  if_pos rfl

end Data

namespace Heap

def Returns (h : Heap) (w : Nat → Val → Val) (fn : Nat) : Prop :=
  ∃ g, h.fns[fn]? = some g ∧ ∀ v, g v = pure (w fn v)

end Heap

namespace Machine

variable {h : Heap}

end Machine

namespace Cmd

open Machine

variable {α β : Type} {pre : Heap → Prop}

theorem contract_forIn {P : Heap → Prop} (next : β → α → β) (T : α → Heap → Heap)
    (hT : ∀ x H, P H → P (T x H)) (body : α → β → Cmd (ForInStep β)) :
    ∀ xs : List α, (∀ x ∈ xs, ∀ b H, P H →
        Contract (body x b) (· = H) fun r h => r = .yield (next b x) ∧ h = T x H) →
      ∀ (b : β) (H : Heap), P H →
      Contract (forIn xs b body) (· = H) fun r h => r = xs.foldl next b ∧ h = xs.foldl (fun H x => T x H) H
  | [], _, b, H, _ => contract_pure b fun _ hh => ⟨rfl, hh⟩
  | x :: xs, hbody, b, H, hP => by
    rw [List.forIn_cons]
    refine (hbody x List.mem_cons_self b H hP).bind fun r => ?_
    refine Contract.assume (r = .yield (next b x)) (fun _ hh => hh.1) fun hr => ?_
    subst hr
    -- the rest of the loop starts from the state and heap the first round left
    exact (contract_forIn next T hT body xs (fun y hy => hbody y (List.mem_cons_of_mem x hy)) (next b x)
      (T x H) (hT x H hP)).mono (fun _ hh => hh.2) fun _ _ hh => hh

/-- A read from a known heap hands on the value there. -/
theorem Contract.read_at [Answer α] {q : α → Cmd β} {post : β → Heap → Prop} {H : Heap} (f : Data → α)
    (hf : ∀ a : α, Answer.ofVal (Answer.toVal a) = a) (hq : Contract (q (f H.data)) (· = H) post) :
    Contract (read f >>= q) (· = H) post :=
  Contract.read_bind f hf fun a =>
    Contract.assume (a = f H.data) (fun h hh => by rw [← hh.2, hh.1]) fun ha => by
      subst ha
      exact hq.mono (fun _ hh => hh.1) fun _ _ hh => hh

theorem Contract.bind_at {q : α → Cmd β} {post : β → Heap → Prop} {a : α} {H H' : Heap}
    (hp : Contract p (· = H) fun r h => r = a ∧ h = H') (hq : Contract (q a) (· = H') post) :
    Contract (p >>= q) (· = H) post :=
  hp.bind fun r => Contract.assume (r = a) (fun _ hh => hh.1) fun hr => by
    subst hr
    exact hq.mono (fun _ hh => hh.2) fun _ _ hh => hh

theorem contract_forkValue (w : Nat → Val → Val) (p : FiberRef) (v : Val) (H : Heap)
    (hp : ∀ fn, p.fork = .custom fn → H.Returns w fn) :
    Contract (forkValue p v) (· = H) fun r h => r = p.forkOf w v ∧ h = H := by
  cases hf : p.fork with
  | copy =>
    simp only [forkValue, FiberRef.forkOf, hf]
    exact contract_pure _ fun _ hh => ⟨rfl, hh⟩
  | drop =>
    simp only [forkValue, FiberRef.forkOf, hf]
    exact contract_pure _ fun _ hh => ⟨rfl, hh⟩
  | custom fn =>
    simp only [forkValue, FiberRef.forkOf, hf]
    obtain ⟨g, hg, hgv⟩ := hp fn hf
    refine Contract.map _ ((contract_call_returns fn v (w fn v) fun h (hh : h = H) => ⟨g, hh ▸ hg, hgv v⟩).mono
      (fun _ hh => hh) fun r h hh => ⟨by rw [hh.1], hh.2⟩)

theorem contract_joinValues (w : Nat → Val → Val) (p : FiberRef) (current incoming : Val) (H : Heap)
    (hp : ∀ fn, p.join = .custom fn → H.Returns w fn) :
    Contract (joinValues p current incoming) (· = H) fun r h => r = p.joinOf w current incoming ∧ h = H := by
  cases hj : p.join with
  | keepParent =>
    simp only [joinValues, FiberRef.joinOf, hj]
    exact contract_pure _ fun _ hh => ⟨rfl, hh⟩
  | custom fn =>
    simp only [joinValues, FiberRef.joinOf, hj]
    obtain ⟨g, hg, hgv⟩ := hp fn hj
    exact (contract_call_returns fn _ _ fun h (hh : h = H) => ⟨g, hh ▸ hg, hgv _⟩).mono (fun _ hh => hh)
      fun r h hh => hh

theorem mem_policies_of_entry {c : StoreCell} {x : RefId × Val × Option FiberRef} {p : FiberRef}
    (hx : x ∈ c.entries) (hp : x.2.2 = some p) : p ∈ c.policies := by
  obtain ⟨⟨r, v⟩, -, rfl⟩ := List.mem_map.1 hx
  exact List.mem_of_find?_eq_some hp

theorem foldl_keep {γ : Type} (xs : List γ) (H : Heap) : xs.foldl (fun H _ => H) H = H := by
  induction xs with
  | nil => rfl
  | cons _ _ ih => exact ih

theorem contract_forkStore (w : Nat → Val → Val) (s : Nat) (H : Heap)
    (hw : ∀ p ∈ (H.data.store s).policies, ∀ fn, p.fork = .custom fn → H.Returns w fn) :
    Contract (forkStore s) (· = H) fun c h =>
      c = H.data.stores.size ∧ h = H.setData (H.data.newStore ((H.data.store s).forked w)).2 := by
  unfold forkStore
  refine Contract.read_at (fun d => (d.store s).entries) Answer.ofVal_toVal_entries ?_
  dsimp only
  -- no round of the loop changes the heap
  refine Contract.bind (contract_forIn (P := (· = H)) (StoreCell.forkEntry w) (fun _ H => H) (fun _ _ hH => hH) _
    (H.data.store s).entries ?_ {} H rfl) fun cell => ?_
  · rintro ⟨r, v, policy⟩ hx cell H' rfl
    cases policy with
    | none => exact contract_pure _ fun _ hh => ⟨rfl, hh⟩
    | some p =>
      have hp := hw p (mem_policies_of_entry hx rfl)
      refine Contract.bind_at (contract_forkValue w p v H' hp) ?_
      cases hfo : p.forkOf w v with
      | none => exact contract_pure _ fun _ hh => ⟨by simp [StoreCell.forkEntry, hfo], hh⟩
      | some v' => exact contract_pure _ fun _ hh => ⟨by simp [StoreCell.forkEntry, hfo], hh⟩
  · refine contract_modify _ fun h hh => ?_
    obtain ⟨hcell, hh⟩ := hh
    rw [foldl_keep] at hh
    subst hh hcell
    exact ⟨by simp [Data.newStore], by rw [Data.guard_newStore]; rfl⟩

theorem contract_forkStore_apart (w : Nat → Val → Val) (s : Nat) (H : Heap) (hs : s < H.data.stores.size)
    (hw : ∀ p ∈ (H.data.store s).policies, ∀ fn, p.fork = .custom fn → H.Returns w fn) :
    Contract (forkStore s) (· = H) fun c h =>
      h.data.store c = (H.data.store s).forked w ∧ h.data.store s = H.data.store s ∧
      ∀ cell, (h.data.setStore s cell).store c = h.data.store c ∧ (h.data.setStore c cell).store s = h.data.store s := by
  refine (contract_forkStore w s H hw).mono (fun _ hh => hh) fun c h ⟨hc, hh⟩ => ?_
  subst hc hh
  have hne : s ≠ H.data.stores.size := Nat.ne_of_lt hs
  simp only [Heap.data_setData]
  exact ⟨Data.store_newStore_self _, Data.store_newStore_of_lt _ hs,
    fun _ => ⟨Data.store_setStore_of_ne hne, Data.store_setStore_of_ne hne.symm⟩⟩

theorem contract_updateStore (s : Nat) (F : StoreCell → StoreCell) (H : Heap) :
    Contract (updateStore s F) (· = H) fun _ h => h = H.setData (H.data.setStore s (F (H.data.store s))) := by
  show Contract (modify fun d => ((), d.setStore s (F (d.store s)))) _ _
  refine contract_modify _ fun h hh => ?_
  subst hh
  show h.setData (h.data.guard (h.data.setStore s (F (h.data.store s)))) = _
  rw [Data.guard_setStore]

def joinRound (w : Nat → Val → Val) (parent : Nat) (x : RefId × Val × Option FiberRef) (H : Heap) : Heap :=
  H.setData (H.data.setStore parent ((H.data.store parent).joinEntry w x))

theorem foldl_joinRound (w : Nat → Val → Val) (parent : Nat) :
    ∀ (xs : List (RefId × Val × Option FiberRef)) (H : Heap),
      xs.foldl (fun H x => joinRound w parent x H) H =
        H.setData (H.data.setStore parent (xs.foldl (StoreCell.joinEntry w) (H.data.store parent)))
  | [], H => by
    rw [List.foldl_nil, List.foldl_nil, Data.setStore_store_self]
    rfl
  | x :: xs, H => by
    rw [List.foldl_cons, List.foldl_cons, foldl_joinRound w parent xs]
    rcases Nat.lt_or_ge parent H.data.stores.size with hp | hp
    · simp only [joinRound, Heap.data_setData, Data.store_setStore_self hp, Data.setStore_setStore]
      rfl
    · -- without a parent store every write is lost
      simp only [joinRound, Heap.data_setData, Data.setStore_of_le hp]
      rfl

theorem contract_joinInto (w : Nat → Val → Val) (child parent : Nat) (H : Heap)
    (hw : ∀ p ∈ (H.data.store child).policies, ∀ fn, p.join = .custom fn → H.Returns w fn) :
    Contract (joinInto child parent) (· = H) fun _ h => h = H.setData (H.data.mergeStore w child parent) := by
  unfold joinInto
  by_cases hcp : child = parent
  · subst hcp
    rw [beq_self_eq_true, if_pos rfl]
    exact contract_pure () fun h hh => by rw [hh, Data.mergeStore, if_pos rfl]; rfl
  have hself : (child == parent) = false := by simpa using hcp
  rw [hself]
  refine Contract.read_at (fun d => (d.store child).entries) Answer.ofVal_toVal_entries ?_
  dsimp only
  -- each round merges one entry, and the kept functions stay all along
  refine Contract.bind (contract_forIn (P := fun H' => H'.fns = H.fns)
    (fun _ _ => PUnit.unit) (joinRound w parent) (fun _ _ hH => hH) _
    (H.data.store child).entries ?_ PUnit.unit H rfl) fun _ => ?_
  · intro x hx _ H' hfns
    have hpol : ∀ p, x.2.2 = some p → ∀ fn, p.join = .custom fn → H'.Returns w fn :=
      fun p hxp fn hj => by
        unfold Heap.Returns
        rw [hfns]
        exact hw p (mem_policies_of_entry hx hxp) fn hj
    clear hx
    obtain ⟨r, incoming, policy⟩ := x
    refine Contract.read_at (fun d => (d.store parent).get? r) Answer.ofVal_toVal_optionVal ?_
    -- the three ways to a merged value end alike: the parent takes it, with the policy kept
    have htail : ∀ G : StoreCell → StoreCell,
        G (H'.data.store parent) = (H'.data.store parent).joinEntry w (r, incoming, policy) →
        Contract (updateStore parent G >>= fun _ => pure (ForInStep.yield PUnit.unit)) (· = H')
          fun st h => st = .yield PUnit.unit ∧ h = joinRound w parent (r, incoming, policy) H' :=
      fun G hG => (contract_updateStore parent G H').bind fun _ =>
        contract_pure _ fun h hh => ⟨rfl, by rw [hh, joinRound, hG]⟩
    cases hcur : (H'.data.store parent).get? r with
    | none =>
      refine Contract.pure_bind (htail _ ?_)
      cases policy <;> simp [StoreCell.joinEntry, StoreCell.mergedValue, hcur]
    | some current =>
      cases policy with
      | none =>
        refine Contract.pure_bind (htail _ ?_)
        simp [StoreCell.joinEntry, StoreCell.mergedValue, hcur]
      | some p =>
        dsimp only
        refine Contract.bind_at (contract_joinValues w p current incoming H' (hpol p rfl)) ?_
        exact htail _ (by simp [StoreCell.joinEntry, StoreCell.mergedValue, hcur])
  · refine contract_pure () fun h hh => ?_
    rw [hh.2, foldl_joinRound w parent _ H, Data.mergeStore, if_neg hcp]
    rfl

end Cmd

end FiberEffects
