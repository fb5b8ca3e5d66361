import FiberEffects.Proofs.StorePolicies

namespace FiberEffects

namespace StoreCell

variable {c child parent : StoreCell}

theorem policy?_set (c : StoreCell) (p : FiberRef) (v : Val) (r : RefId) :
    (c.set p v).policy? r = if r.num = p.id.num then some p else c.policy? r := by
  rw [set, policy?_setPolicy, policy?_putValue]

theorem mem_entries {x : RefId × Val × Option FiberRef} :
    x ∈ c.entries ↔ ∃ kv ∈ c.values, x = (kv.1, kv.2, c.policy? kv.1) := by
  unfold entries
  rw [List.mem_map]
  exact ⟨fun ⟨kv, hkv, hx⟩ => ⟨kv, hkv, hx.symm⟩, fun ⟨kv, hkv, hx⟩ => ⟨kv, hkv, hx.symm⟩⟩

theorem get?_isSome_of_mem {kv : RefId × Val} (hkv : kv ∈ c.values) : (c.get? kv.1).isSome := by
  unfold get?
  rw [Option.isSome_map]
  exact List.find?_isSome.2 ⟨kv, hkv, beq_self_eq_true _⟩

def Covered (c : StoreCell) : Prop := ∀ r : RefId, (c.get? r).isSome → (c.policy? r).isSome

theorem covered_empty : ({} : StoreCell).Covered := fun _ hr => by simp [get?] at hr

theorem Covered.set (hc : c.Covered) (p : FiberRef) (v : Val) : (c.set p v).Covered := by
  intro r hr
  rw [policy?_set]
  split
  · rfl
  · next hne =>
    rw [get?_set, if_neg hne] at hr
    exact hc r hr

theorem Covered.setPolicy (hc : c.Covered) (p : FiberRef) : (c.setPolicy p).Covered := by
  intro r hr
  rw [policy?_setPolicy]
  split
  · rfl
  · rw [get?_setPolicy] at hr
    exact hc r hr

theorem Covered.track (hc : c.Covered) (l : List (RefId × Nat)) : { c with initializing := l }.Covered :=
  hc

theorem Covered.delete (hc : c.Covered) (r : RefId) : (c.delete r).2.Covered := by
  intro r' hr
  rw [get?_delete] at hr
  rw [policy?_delete]
  split at hr
  · simp at hr
  · next hne =>
    rw [if_neg hne]
    exact hc r' hr

theorem Covered.entry_policy (hc : c.Covered) {x : RefId × Val × Option FiberRef} (hx : x ∈ c.entries) :
    ∃ p, x.2.2 = some p ∧ p.id.num = x.1.num := by
  obtain ⟨kv, hkv, rfl⟩ := mem_entries.1 hx
  obtain ⟨p, hp⟩ := Option.isSome_iff_exists.1 (hc kv.1 (get?_isSome_of_mem hkv))
  exact ⟨p, hp, ownPolicy_of_mem_entries hx p hp⟩

theorem Covered.forked (hk : c.Keyed) (hc : c.Covered) (w : Nat → Val → Val) : (c.forked w).Covered := by
  intro r hr
  rw [get?_forked w c hk] at hr
  rw [policy?_forked w c hk]
  cases hv : c.get? r with
  | none => simp [hv] at hr
  | some v =>
    cases hp : c.policy? r with
    | none => simpa [hp] using hc r (by simp [hv])
    | some p =>
      -- the policy stays exactly when the fork gives a value
      simp only [hv, hp] at hr ⊢
      simp [hr]

theorem Covered.joinEntry (hp : parent.Covered) (hchild : child.Covered) (w : Nat → Val → Val)
    {x : RefId × Val × Option FiberRef} (hx : x ∈ child.entries) : (parent.joinEntry w x).Covered := by
  obtain ⟨q, hq, -⟩ := hchild.entry_policy hx
  intro r hr
  rw [get?_joinEntry] at hr
  rw [policy?_joinEntry w parent x r (ownPolicy_of_mem_entries hx), hq]
  split
  · simp
  · next hne =>
    rw [if_neg hne] at hr
    exact hp r hr

/-- The stores the library's operations reach from an empty one. -/
inductive Reachable : StoreCell → Prop
  | empty : Reachable {}
  | set {c : StoreCell} (p : FiberRef) (v : Val) : Reachable c → Reachable (c.set p v)
  | register {c : StoreCell} (p : FiberRef) : Reachable c → Reachable (c.setPolicy p)
  | track {c : StoreCell} (l : List (RefId × Nat)) : Reachable c → Reachable { c with initializing := l }
  | delete {c : StoreCell} (r : RefId) : Reachable c → Reachable (c.delete r).2
  | fork {c : StoreCell} (w : Nat → Val → Val) : Reachable c → Reachable (c.forked w)
  | merge {child parent : StoreCell} (w : Nat → Val → Val) {x : RefId × Val × Option FiberRef} :
      Reachable child → x ∈ child.entries → Reachable parent → Reachable (parent.joinEntry w x)

theorem Reachable.keyed (hc : c.Reachable) : c.Keyed := by
  induction hc with
  | empty => exact keyed_empty
  | set p v _ ih => exact keyed_setPolicy (keyed_putValue ih _ v) p
  | register p _ ih => exact keyed_setPolicy ih p
  | track l _ ih => exact ih
  | delete r _ ih => exact keyed_delete ih r
  | fork w _ _ => exact keyed_forked w _
  | merge w _ _ _ _ ihp => exact keyed_joinEntry w ihp _

/-- Every store the operations reach is covered; the induction follows the operations. -/
theorem Reachable.covered (hc : c.Reachable) : c.Covered := by
  induction hc with
  | empty => exact covered_empty
  | set p v _ ih => exact ih.set p v
  | register p _ ih => exact ih.setPolicy p
  | track l _ ih => exact ih.track l
  | delete r _ ih => exact ih.delete r
  | fork w hc ih => exact ih.forked hc.keyed w
  | merge w _ hx _ ihc ihp => exact ihp.joinEntry ihc w hx

/-- A whole join, its rounds one after another, reaches a store from reached ones. -/
theorem Reachable.joined (hchild : child.Reachable) (w : Nat → Val → Val) :
    ∀ {parent : StoreCell}, parent.Reachable → (child.joined w parent).Reachable := by
  intro parent hp
  unfold StoreCell.joined
  -- every entry the fold merges is one of the child's
  suffices h : ∀ xs : List (RefId × Val × Option FiberRef), (∀ x ∈ xs, x ∈ child.entries) →
      ∀ acc : StoreCell, acc.Reachable → (xs.foldl (joinEntry w) acc).Reachable from
    h child.entries (fun _ hx => hx) parent hp
  intro xs
  induction xs with
  | nil => exact fun _ _ hacc => hacc
  | cons x xs ih =>
    intro hxs acc hacc
    exact ih (fun y hy => hxs y (.tail _ hy)) _ (.merge w hchild (hxs x (.head _)) hacc)

/-- In every store reached from an empty one, every value has its policy recorded. -/
theorem reachable_values_have_policies (hc : c.Reachable) :
    (∀ e ∈ c.values, ∃ p ∈ c.policies, p.id.num = e.1.num) ∧
      ∀ x ∈ c.entries, ∃ p, x.2.2 = some p ∧ p.id.num = x.1.num := by
  have hcov := hc.covered
  refine ⟨fun e he => ?_, fun x hx => hcov.entry_policy hx⟩
  obtain ⟨p, hp⟩ := Option.isSome_iff_exists.1 (hcov e.1 (get?_isSome_of_mem he))
  exact ⟨p, List.mem_of_find?_eq_some hp, by simpa using List.find?_some hp⟩

theorem forked_services_have_policies :
    ((({} : StoreCell).set FiberRef.services .unit).forked fun _ v => v).Reachable ∧
      (∀ e ∈ ((({} : StoreCell).set FiberRef.services .unit).forked fun _ v => v).values,
        ∃ p ∈ ((({} : StoreCell).set FiberRef.services .unit).forked fun _ v => v).policies,
          p.id.num = e.1.num) ∧
      ∀ x ∈ ((({} : StoreCell).set FiberRef.services .unit).forked fun _ v => v).entries,
        ∃ p, x.2.2 = some p ∧ p.id.num = x.1.num :=
  have h : ((({} : StoreCell).set FiberRef.services .unit).forked fun _ v => v).Reachable :=
    .fork _ (.set _ _ .empty)
  ⟨h, reachable_values_have_policies h⟩

end StoreCell

namespace Data

variable {d : Data} {cell : StoreCell}

def StoresReachable (d : Data) : Prop := ∀ s, (d.store s).Reachable

theorem StoresReachable.setStore (hd : d.StoresReachable) (s : Nat) (hc : cell.Reachable) :
    (d.setStore s cell).StoresReachable := by
  intro s'
  by_cases hs : s = s'
  · subst hs
    rcases Nat.lt_or_ge s d.stores.size with hlt | hge
    · rw [store_setStore_self hlt]
      exact hc
    · rw [setStore_of_le hge]
      exact hd s
  · rw [store_setStore_of_ne hs]
    exact hd s'

theorem StoresReachable.newStore (hd : d.StoresReachable) (hc : cell.Reachable) :
    (d.newStore cell).2.StoresReachable := by
  intro s
  rcases Nat.lt_trichotomy s d.stores.size with hlt | rfl | hgt
  · rw [store_newStore_of_lt cell hlt]
    exact hd s
  · rw [store_newStore_self]
    exact hc
  · -- past the new store there is none, and a missing store reads as an empty one
    have hnone : (d.stores.push cell)[s]? = none := Array.getElem?_eq_none (by simp; omega)
    show ((d.stores.push cell)[s]?.getD {}).Reachable
    rw [hnone]
    exact .empty

theorem StoresReachable.mergeStore (hd : d.StoresReachable) (w : Nat → Val → Val) (child parent : Nat) :
    (d.mergeStore w child parent).StoresReachable := by
  unfold Data.mergeStore
  split
  · exact hd
  · exact hd.setStore parent ((hd child).joined w (hd parent))

end Data

namespace Cmd

theorem contract_updateStore_reachable (s : Nat) (F : StoreCell → StoreCell)
    (hF : ∀ c : StoreCell, c.Reachable → (F c).Reachable) :
    Contract (updateStore s F) (fun h => h.data.StoresReachable) fun _ h => h.data.StoresReachable :=
  Contract.ghost id fun H => Contract.assume H.data.StoresReachable (fun _ hh => hh.2 ▸ hh.1) fun hH =>
    (contract_updateStore s F H).mono (fun _ hh => hh.2) fun _ _ hh => by
      rw [hh, Heap.data_setData]
      exact hH.setStore s (hF _ (hH s))

theorem contract_storeDelete_reachable (s : Nat) (ref : FiberRef) :
    Contract (storeDelete s ref) (fun h => h.data.StoresReachable) fun _ h => h.data.StoresReachable :=
  contract_modify _ fun h hh => by
    show (h.data.guard (h.data.setStore s ((h.data.store s).delete ref.id).2)).StoresReachable
    rw [Data.guard_setStore]
    exact hh.setStore s (.delete _ (hh s))

theorem contract_forkStore_reachable (w : Nat → Val → Val) (s : Nat) (H : Heap) (hH : H.data.StoresReachable)
    (hw : ∀ p ∈ (H.data.store s).policies, ∀ fn, p.fork = .custom fn → H.Returns w fn) :
    Contract (forkStore s) (· = H) fun _ h => h.data.StoresReachable :=
  (contract_forkStore w s H hw).mono (fun _ hh => hh) fun _ _ hh => by
    rw [hh.2, Heap.data_setData]
    exact hH.newStore (.fork w (hH s))

/-- Joining a store into another keeps every store reachable, whatever the join policies give. -/
theorem contract_joinInto_reachable (w : Nat → Val → Val) (child parent : Nat) (H : Heap)
    (hH : H.data.StoresReachable)
    (hw : ∀ p ∈ (H.data.store child).policies, ∀ fn, p.join = .custom fn → H.Returns w fn) :
    Contract (joinInto child parent) (· = H) fun _ h => h.data.StoresReachable :=
  (contract_joinInto w child parent H hw).mono (fun _ hh => hh) fun _ _ hh => by
    rw [hh, Heap.data_setData]
    exact hH.mergeStore w child parent

end Cmd

end FiberEffects
