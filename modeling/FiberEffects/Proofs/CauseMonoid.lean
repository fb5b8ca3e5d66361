import FiberEffects.Cause.Equiv
import FiberEffects.Json.Basic

namespace FiberEffects

namespace Cause

variable {ε : Type}

@[simp] theorem items_seq (a b : Cause ε) : (seq a b).items = a.items ++ b.items := by
  simp [items]

theorem items_combine (a b : Cause ε) : (combine a b).items = a.items ++ b.items := by
  cases a <;> cases b <;> simp [combine, items]

section Equality

variable [BEq ε]

theorem Item.listEq_append {xs xs' ys ys' : List (Item ε)} (h : Item.listEq xs xs' = true)
    (h' : Item.listEq ys ys' = true) : Item.listEq (xs ++ ys) (xs' ++ ys') = true := by
  induction xs generalizing xs' with
  | nil =>
    cases xs' with
    | nil => simpa using h'
    | cons y ys => simp [Item.listEq] at h
  | cons x xs ih =>
    cases xs' with
    | nil => simp [Item.listEq] at h
    | cons y ys =>
      simp only [Item.listEq, Bool.and_eq_true, List.cons_append] at h ⊢
      exact ⟨h.1, ih h.2⟩

theorem equiv_combine {a a' b b' : Cause ε} (ha : a.equiv a' = true) (hb : b.equiv b' = true) :
    (combine a b).equiv (combine a' b') = true := by
  simp only [equiv, items_combine]
  exact Item.listEq_append ha hb

/-- A branch equal to itself takes the first slot still holding it. -/
theorem Item.takeFirst_self {b : List (Item ε)} (hb : Item.listEq b b = true)
    (k : Nat) (rest : List (Option (List (Item ε)))) :
    Item.takeFirst b (List.replicate k none ++ some b :: rest) =
      some (List.replicate (k + 1) none ++ rest) := by
  induction k with
  | zero => simp [Item.takeFirst, hb]
  | succ k ih => simp [List.replicate_succ, Item.takeFirst, ih]

theorem Item.matchAll_self {bs : List (List (Item ε))} (hbs : ∀ b ∈ bs, Item.listEq b b = true)
    (k : Nat) : Item.matchAll bs (List.replicate k none ++ bs.map some) = true := by
  induction bs generalizing k with
  | nil => simp [Item.matchAll]
  | cons b bs ih =>
    have hb := hbs b List.mem_cons_self
    simp only [List.map_cons, Item.matchAll, Item.takeFirst_self hb]
    exact ih (fun b' hb' => hbs b' (List.mem_cons_of_mem b hb')) (k + 1)

theorem Item.listEq_single {x : Item ε} (hx : Item.eq x x = true) : Item.listEq [x] [x] = true := by
  simp [Item.listEq, hx]

variable [ReflBEq ε]

/-- The normal form of a cause, and each of its concurrent branches, equals itself. -/
theorem listEq_items_self (c : Cause ε) :
    Item.listEq c.items c.items = true ∧ ∀ b ∈ c.branches, Item.listEq b b = true := by
  induction c with
  | empty => simp [items, branches, Item.listEq]
  | expected t e => simp [items, branches, Item.listEq, Item.eq]
  | unexpected t d => simp [items, branches, Item.listEq, Item.eq]
  | interrupted t f => simp [items, branches, Item.listEq, Item.eq]
  | seq l r ihl ihr =>
    have h := Item.listEq_append ihl.1 ihr.1
    simp [branches, h]
  | par l r ihl ihr =>
    have hbs : ∀ b ∈ l.branches ++ r.branches, Item.listEq b b = true := by
      intro b hb
      rcases List.mem_append.1 hb with hb | hb
      · exact ihl.2 b hb
      · exact ihr.2 b hb
    refine ⟨?_, by simpa [branches] using hbs⟩
    -- the three shapes of a concurrent node's normal form: nothing, one branch, or a node
    rw [items]
    split
    · simp [Item.listEq]
    · rename_i single hsingle
      exact hbs single (by simp [hsingle])
    · have hm : Item.matchAll (l.branches ++ r.branches) ((l.branches ++ r.branches).map some) =
          true := Item.matchAll_self hbs 0
      exact Item.listEq_single (by simp only [Item.eq, hm, beq_self_eq_true, Bool.and_self])
  | traced c lbl ih =>
    have h : Item.listEq [Item.traced lbl c.items] [Item.traced lbl c.items] = true :=
      Item.listEq_single (by simp [Item.eq, ih.1])
    simp [items, branches, h]

theorem equiv_refl (c : Cause ε) : c.equiv c = true := (listEq_items_self c).1

theorem equiv_of_items_eq {a b : Cause ε} (h : a.items = b.items) : a.equiv b = true := by
  rw [equiv, h]
  exact equiv_refl b

/-- The monoid laws of `combine`, as trees and up to semantic equality. -/
theorem combine_monoid_laws (a b c : Cause ε) :
    combine .empty a = a ∧ combine a .empty = a ∧
    (combine a b).items = a.items ++ b.items ∧
    (combine (combine a b) c).equiv (combine a (combine b c)) = true ∧
    (combine a b).equiv (.seq a b) = true ∧
    ∀ a' b' : Cause ε, a.equiv a' = true → b.equiv b' = true →
      (combine a b).equiv (combine a' b') = true := by
  have hassoc : (combine (combine a b) c).items = (combine a (combine b c)).items := by
    simp only [items_combine, List.append_assoc]
  have hseq : (combine a b).items = (seq a b).items := by
    rw [items_combine, items_seq]
  exact ⟨empty_combine a, combine_empty a, items_combine a b, equiv_of_items_eq hassoc,
    equiv_of_items_eq hseq, fun _ _ ha hb => equiv_combine ha hb⟩

theorem combine_monoid_laws_json :
    combine .empty (.expected Time.zero (.int 1) : Cause Json) = .expected Time.zero (.int 1) ∧
    combine (.expected Time.zero (.int 1) : Cause Json) .empty = .expected Time.zero (.int 1) ∧
    (combine (.expected Time.zero (.int 1)) (.interrupted Time.zero .none) : Cause Json).items =
      (Cause.expected Time.zero (.int 1) : Cause Json).items ++
        (Cause.interrupted Time.zero .none : Cause Json).items ∧
    (combine (combine (.expected Time.zero (.int 1)) (.interrupted Time.zero .none))
        (.par .empty (.unexpected Time.zero "boom")) : Cause Json).equiv
      (combine (.expected Time.zero (.int 1))
        (combine (.interrupted Time.zero .none) (.par .empty (.unexpected Time.zero "boom")))) =
      true ∧
    (combine (.expected Time.zero (.int 1)) (.interrupted Time.zero .none) : Cause Json).equiv
      (.seq (.expected Time.zero (.int 1)) (.interrupted Time.zero .none)) = true ∧
    ∀ a' b' : Cause Json, (Cause.expected Time.zero (.int 1) : Cause Json).equiv a' = true →
      (Cause.interrupted Time.zero .none : Cause Json).equiv b' = true →
      (combine (.expected Time.zero (.int 1)) (.interrupted Time.zero .none)).equiv
        (combine a' b') = true :=
  combine_monoid_laws (ε := Json) (.expected Time.zero (.int 1)) (.interrupted Time.zero .none)
    (.par .empty (.unexpected Time.zero "boom"))

end Equality

end Cause

end FiberEffects
