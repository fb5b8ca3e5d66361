import FiberEffects.Proofs.CauseEquivalence

namespace FiberEffects

namespace Cause

variable {ε : Type}

def Item.join : List (List (Item ε)) → List (Item ε)
  | [] => []
  | [b] => b
  | b :: c :: bs => [.par (b :: c :: bs)]

@[simp] theorem branches_empty : (empty : Cause ε).branches = [] := by
  simp [branches]

@[simp] theorem branches_par (l r : Cause ε) : (par l r).branches = l.branches ++ r.branches := by
  simp [branches]

theorem branches_of_single {a : Cause ε} (he : a ≠ .empty) (hp : ∀ l r, a ≠ .par l r) :
    a.branches = [a.items] := by
  cases a with
  | empty => exact absurd rfl he
  | par l r => exact absurd rfl (hp l r)
  | _ => simp [branches]

theorem items_par (l r : Cause ε) : (par l r).items = Item.join (l.branches ++ r.branches) := by
  rw [items]
  generalize l.branches ++ r.branches = bs
  rcases bs with _ | ⟨b, _ | ⟨c, bs⟩⟩ <;> rfl

theorem items_eq_join (c : Cause ε) : c.items = Item.join c.branches := by
  cases c with
  | empty => simp [items, Item.join]
  | par l r => rw [items_par, branches_par]
  | _ => rw [branches_of_single (by simp) (by simp)]; rfl

theorem items_empty_par (a : Cause ε) : (par .empty a).items = a.items := by
  rw [items_par, items_eq_join a, branches_empty, List.nil_append]

theorem items_par_assoc (a b c : Cause ε) : (par (par a b) c).items = (par a (par b c)).items := by
  rw [items_par, items_par, branches_par, branches_par, List.append_assoc]

section Equality

variable [BEq ε]

theorem equiv_seq {a a' b b' : Cause ε} (ha : a.equiv a' = true) (hb : b.equiv b' = true) :
    (seq a b).equiv (seq a' b') = true := by
  simp only [equiv, items_seq]
  exact Item.listEq_append ha hb

theorem equiv_traced {a a' : Cause ε} (h : a.equiv a' = true) (l : String) :
    (traced a l).equiv (traced a' l) = true := by
  simp only [equiv, items] at h ⊢
  simp [Item.listEq, Item.eq, h]

theorem sameBranches_of_single {a a' : Cause ε} (h : a.equiv a' = true) (he : a ≠ .empty)
    (he' : a' ≠ .empty) (hp : ∀ x y, a ≠ .par x y) (hp' : ∀ x y, a' ≠ .par x y) :
    Item.SameBranches a.branches a'.branches := by
  rw [branches_of_single he hp, branches_of_single he' hp']
  exact ⟨[a'.items], .cons h .nil, List.Perm.refl _⟩

variable [EquivBEq ε]

/-- Branches that are the same up to order and equality join to equal normal forms. -/
theorem Item.listEq_join {bs cs : List (List (Item ε))} (h : Item.SameBranches bs cs) :
    Item.listEq (Item.join bs) (Item.join cs) = true := by
  obtain ⟨cs', hf, hp⟩ := h
  have hlen : bs.length = cs.length := hf.length_eq.trans hp.length_eq
  rcases bs with _ | ⟨b, _ | ⟨b', bs⟩⟩
  · cases hf
    rw [← List.Perm.nil_eq hp]
    simp [Item.join, Item.listEq]
  · obtain ⟨c, _, hbc, hnil, rfl⟩ := List.forall₂_cons_left_iff.1 hf
    cases hnil
    rw [List.perm_singleton.1 hp.symm]
    simpa [Item.join] using hbc
  · -- two branches or more on each side: one concurrent item each, equal as multisets
    rcases cs with _ | ⟨c, _ | ⟨c', cs⟩⟩
    · simp at hlen
    · simp at hlen
    · simp only [Item.join, Item.listEq, Bool.and_true]
      exact (Item.eq_par_iff Item.equivOn.listEq (fun _ _ _ _ => trivial)
        (fun _ _ _ _ => trivial)).2 ⟨cs', hf, hp⟩

theorem forall₂_branches_self (c : Cause ε) :
    List.Forall₂ (fun x y => Item.listEq x y = true) c.branches c.branches :=
  List.forall₂_same.2 (listEq_items_self c).2

theorem equiv_par_comm (a b : Cause ε) : (par a b).equiv (par b a) = true := by
  rw [equiv, items_par, items_par]
  exact Item.listEq_join ⟨a.branches ++ b.branches,
    List.rel_append (forall₂_branches_self a) (forall₂_branches_self b), List.perm_append_comm⟩

/-- Concurrent composition is a commutative monoid up to semantic equality. -/
theorem par_commutative_monoid (a b c : Cause ε) :
    (par a b).equiv (par b a) = true ∧
    (par (par a b) c).equiv (par a (par b c)) = true ∧
    (par .empty a).equiv a = true ∧
    (par (par a b) c).items = (par a (par b c)).items ∧ (par .empty a).items = a.items :=
  ⟨equiv_par_comm a b, equiv_of_items_eq (items_par_assoc a b c),
    equiv_of_items_eq (items_empty_par a), items_par_assoc a b c, items_empty_par a⟩

theorem par_commutative_monoid_json :
    (par (.expected Time.zero (.int 1)) (.seq (.interrupted Time.zero .none) .empty) :
        Cause Json).equiv
      (par (.seq (.interrupted Time.zero .none) .empty) (.expected Time.zero (.int 1))) = true ∧
    (par (par (.expected Time.zero (.int 1)) (.seq (.interrupted Time.zero .none) .empty))
        (.traced (.par .empty (.unexpected Time.zero "boom")) "io") : Cause Json).equiv
      (par (.expected Time.zero (.int 1)) (par (.seq (.interrupted Time.zero .none) .empty)
        (.traced (.par .empty (.unexpected Time.zero "boom")) "io"))) = true ∧
    (par .empty (.expected Time.zero (.int 1)) : Cause Json).equiv (.expected Time.zero (.int 1)) =
      true ∧
    (par (par (.expected Time.zero (.int 1)) (.seq (.interrupted Time.zero .none) .empty))
        (.traced (.par .empty (.unexpected Time.zero "boom")) "io") : Cause Json).items =
      (par (.expected Time.zero (.int 1)) (par (.seq (.interrupted Time.zero .none) .empty)
        (.traced (.par .empty (.unexpected Time.zero "boom")) "io"))).items ∧
    (par .empty (.expected Time.zero (.int 1)) : Cause Json).items =
      (Cause.expected Time.zero (.int 1) : Cause Json).items :=
  par_commutative_monoid (ε := Json) (.expected Time.zero (.int 1))
    (.seq (.interrupted Time.zero .none) .empty) (.traced (.par .empty (.unexpected Time.zero "boom")) "io")

theorem equiv_par_of_sameBranches {a a' : Cause ε} (h : Item.SameBranches a.branches a'.branches)
    (b : Cause ε) : (par a b).equiv (par a' b) = true := by
  rw [equiv, items_par, items_par]
  obtain ⟨cs, hf, hp⟩ := h
  exact Item.listEq_join ⟨cs ++ b.branches, List.rel_append hf (forall₂_branches_self b),
    hp.append_right _⟩

/-- Semantic equality is a congruence for sequencing, labels and concurrent causes with the same branches. -/
theorem equiv_congruence {a a' : Cause ε} (h : a.equiv a' = true) (b : Cause ε) (l : String) :
    (seq a b).equiv (seq a' b) = true ∧ (seq b a).equiv (seq b a') = true ∧
    (traced a l).equiv (traced a' l) = true ∧
    (Item.SameBranches a.branches a'.branches → (par a b).equiv (par a' b) = true) ∧
    (a ≠ .empty → a' ≠ .empty → (∀ x y, a ≠ .par x y) → (∀ x y, a' ≠ .par x y) →
      (par a b).equiv (par a' b) = true) := by
  refine ⟨equiv_seq h (equiv_refl b), equiv_seq (equiv_refl b) h, equiv_traced h l,
    fun hs => equiv_par_of_sameBranches hs b, fun he he' hp hp' => ?_⟩
  -- a cause that is neither empty nor concurrent is its one branch
  exact equiv_par_of_sameBranches (sameBranches_of_single h he he' hp hp') b

theorem equiv_congruence_json :
    (seq (.expected Time.zero (.int 1)) .empty : Cause Json).equiv (.expected Time.zero (.int 1)) =
      true ∧
    ((seq (seq (.expected Time.zero (.int 1)) .empty) (.interrupted Time.zero .none) : Cause Json).equiv
      (seq (.expected Time.zero (.int 1)) (.interrupted Time.zero .none)) = true ∧
    (seq (.interrupted Time.zero .none) (seq (.expected Time.zero (.int 1)) .empty) : Cause Json).equiv
      (seq (.interrupted Time.zero .none) (.expected Time.zero (.int 1))) = true ∧
    (traced (seq (.expected Time.zero (.int 1)) .empty) "io" : Cause Json).equiv
      (traced (.expected Time.zero (.int 1)) "io") = true ∧
    (Item.SameBranches (seq (.expected Time.zero (.int 1)) .empty : Cause Json).branches
        (Cause.expected Time.zero (.int 1) : Cause Json).branches →
      (par (seq (.expected Time.zero (.int 1)) .empty) (.interrupted Time.zero .none) :
        Cause Json).equiv (par (.expected Time.zero (.int 1)) (.interrupted Time.zero .none)) = true) ∧
    ((seq (.expected Time.zero (.int 1)) .empty : Cause Json) ≠ .empty →
      (Cause.expected Time.zero (.int 1) : Cause Json) ≠ .empty →
      (∀ x y, (seq (.expected Time.zero (.int 1)) .empty : Cause Json) ≠ .par x y) →
      (∀ x y, (Cause.expected Time.zero (.int 1) : Cause Json) ≠ .par x y) →
      (par (seq (.expected Time.zero (.int 1)) .empty) (.interrupted Time.zero .none) :
        Cause Json).equiv (par (.expected Time.zero (.int 1)) (.interrupted Time.zero .none)) =
          true)) := by
  have h : (seq (.expected Time.zero (.int 1)) .empty : Cause Json).equiv
      (.expected Time.zero (.int 1)) = true :=
    equiv_of_items_eq (by simp [items])
  exact ⟨h, equiv_congruence h (.interrupted Time.zero .none) "io"⟩

end Equality

end Cause

end FiberEffects
