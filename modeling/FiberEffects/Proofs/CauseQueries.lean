import FiberEffects.Proofs.ConcurrentCauses

namespace FiberEffects

namespace Cause

variable {ε : Type}

/-- Each leaf is an expected failure, a defect or an interruption. -/
theorem mem_leaves {c l : Cause ε} (h : l ∈ c.leaves) :
    (∃ t e, l = .expected t e) ∨ (∃ t d, l = .unexpected t d) ∨
      (∃ t f, l = .interrupted t f) := by
  induction c with
  | empty => simp [leaves] at h
  | expected t e => simp_all [leaves]
  | unexpected t d => simp_all [leaves]
  | interrupted t f => simp_all [leaves]
  | seq l r ihl ihr =>
    rcases List.mem_append.1 h with h | h
    · exact ihl h
    · exact ihr h
  | par l r ihl ihr =>
    rcases List.mem_append.1 h with h | h
    · exact ihl h
    · exact ihr h
  | traced c lbl ih => exact ih h

theorem interruptor?_ne_none_iff {c l : Cause ε} (h : l ∈ c.leaves) :
    l.interruptor? ≠ none ↔ l.error? = none ∧ l.defect? = none := by
  rcases mem_leaves h with ⟨t, e, rfl⟩ | ⟨t, d, rfl⟩ | ⟨t, f, rfl⟩ <;>
    simp [interruptor?, error?, defect?]

theorem foldl_noteLeaf (xs : List (Cause ε)) (seen : Bool × Bool) :
    xs.foldl noteLeaf seen =
      (seen.1 || xs.any (·.interruptor?.isSome), seen.2 || xs.any (·.interruptor?.isNone)) := by
  induction xs generalizing seen with
  | nil => simp
  | cons l xs ih =>
    rw [List.foldl_cons, ih]
    cases l <;> simp [noteLeaf, interruptor?]

/-- A cause is interrupted only when it has an interruptor and no failure or defect. -/
theorem isInterruptedOnly_iff (c : Cause ε) : c.isInterruptedOnly = true ↔
    c.interruptors ≠ [] ∧ c.failures = [] ∧ c.defects = [] := by
  -- a leaf that is no interruption is a failure or a defect
  have hother : (c.leaves.any (·.interruptor?.isNone) = false) ↔
      c.failures = [] ∧ c.defects = [] := by
    simp only [failures, defects, List.filterMap_eq_nil_iff, List.any_eq_false,
      Option.isNone_iff_eq_none]
    exact ⟨fun h => ⟨fun l hl => ((interruptor?_ne_none_iff hl).1 (h l hl)).1,
        fun l hl => ((interruptor?_ne_none_iff hl).1 (h l hl)).2⟩,
      fun h l hl => (interruptor?_ne_none_iff hl).2 ⟨h.1 l hl, h.2 l hl⟩⟩
  rw [isInterruptedOnly, foldl_noteLeaf, ← hother]
  simp [interruptors, List.filterMap_eq_nil_iff, Option.isSome_iff_ne_none]

mutual
def Item.leaves : Item ε → List (Cause ε)
  | .expected t e => [.expected t e]
  | .unexpected t d => [.unexpected t d]
  | .interrupted t f => [.interrupted t f]
  | .traced _ xs => Item.listLeaves xs
  | .par bs => Item.branchLeaves bs

def Item.listLeaves : List (Item ε) → List (Cause ε)
  | [] => []
  | x :: xs => x.leaves ++ Item.listLeaves xs

def Item.branchLeaves : List (List (Item ε)) → List (Cause ε)
  | [] => []
  | b :: bs => Item.listLeaves b ++ Item.branchLeaves bs
end

@[simp] theorem Item.listLeaves_append (xs ys : List (Item ε)) :
    Item.listLeaves (xs ++ ys) = Item.listLeaves xs ++ Item.listLeaves ys := by
  induction xs with
  | nil => simp [Item.listLeaves]
  | cons x xs ih => simp [Item.listLeaves, ih]

@[simp] theorem Item.branchLeaves_append (bs cs : List (List (Item ε))) :
    Item.branchLeaves (bs ++ cs) = Item.branchLeaves bs ++ Item.branchLeaves cs := by
  induction bs with
  | nil => simp [Item.branchLeaves]
  | cons b bs ih => simp [Item.branchLeaves, ih]

theorem Item.branchLeaves_eq_flatMap (bs : List (List (Item ε))) :
    Item.branchLeaves bs = bs.flatMap Item.listLeaves := by
  induction bs with
  | nil => rfl
  | cons b bs ih => simp [Item.branchLeaves, ih]

theorem Item.listLeaves_join (bs : List (List (Item ε))) :
    Item.listLeaves (Item.join bs) = Item.branchLeaves bs := by
  rcases bs with _ | ⟨b, _ | ⟨c, bs⟩⟩
  · rfl
  · simp [Item.join, Item.branchLeaves]
  · simp [Item.join, Item.listLeaves, Item.leaves]

/-- The leaves of a cause are those of its normal form, and those of its branches, in order. -/
theorem listLeaves_items (c : Cause ε) :
    Item.listLeaves c.items = c.leaves ∧ Item.branchLeaves c.branches = c.leaves := by
  induction c with
  | empty => simp [items, leaves, Item.listLeaves, Item.branchLeaves]
  | expected t e => simp [items, branches, leaves, Item.listLeaves, Item.branchLeaves, Item.leaves]
  | unexpected t d =>
    simp [items, branches, leaves, Item.listLeaves, Item.branchLeaves, Item.leaves]
  | interrupted t f =>
    simp [items, branches, leaves, Item.listLeaves, Item.branchLeaves, Item.leaves]
  | seq l r ihl ihr =>
    have hb : (seq l r).branches = [(seq l r).items] := by simp [branches]
    simp [hb, leaves, Item.branchLeaves, ihl.1, ihr.1]
  | par l r ihl ihr =>
    have hb : Item.branchLeaves (par l r).branches = (par l r).leaves := by
      simp [leaves, ihl.2, ihr.2]
    exact ⟨by rw [items_par, Item.listLeaves_join, ← branches_par, hb], hb⟩
  | traced c lbl ih =>
    have hb : (traced c lbl).branches = [(traced c lbl).items] := by simp [branches]
    simp [hb, items, leaves, Item.listLeaves, Item.branchLeaves, Item.leaves, ih.1]

section Agreement

variable [BEq ε]

def LeafAgree (l l' : Cause ε) : Prop :=
  Option.Rel (fun e e' => (e == e') = true) l.error? l'.error? ∧ l.defect? = l'.defect? ∧
    l.interruptor? = l'.interruptor?

def LeavesAgree (xs ys : List (Cause ε)) : Prop :=
  ∃ zs, List.Forall₂ LeafAgree xs zs ∧ zs.Perm ys

theorem LeavesAgree.nil : LeavesAgree ([] : List (Cause ε)) [] := ⟨[], .nil, .nil⟩

theorem LeavesAgree.single {l l' : Cause ε} (h : LeafAgree l l') : LeavesAgree [l] [l'] :=
  ⟨[l'], .cons h .nil, .refl _⟩

theorem LeavesAgree.append {xs ys xs' ys' : List (Cause ε)} (h : LeavesAgree xs ys)
    (h' : LeavesAgree xs' ys') : LeavesAgree (xs ++ xs') (ys ++ ys') := by
  obtain ⟨zs, hf, hp⟩ := h
  obtain ⟨zs', hf', hp'⟩ := h'
  exact ⟨zs ++ zs', List.rel_append hf hf', hp.append hp'⟩

theorem LeavesAgree.perm {xs ys ys' : List (Cause ε)} (h : LeavesAgree xs ys) (hp : ys.Perm ys') :
    LeavesAgree xs ys' := by
  obtain ⟨zs, hf, hzs⟩ := h
  exact ⟨zs, hf, hzs.trans hp⟩

theorem leafAgree_expected {t t' : Time} {e e' : ε} (h : (e == e') = true) :
    LeafAgree (.expected t e) (.expected t' e') :=
  ⟨.some h, rfl, rfl⟩

theorem leafAgree_unexpected {t t' : Time} {d d' : String} (h : d = d') :
    LeafAgree (.unexpected t d : Cause ε) (.unexpected t' d') :=
  ⟨.none, by simp [defect?, h], rfl⟩

theorem leafAgree_interrupted {t t' : Time} {f f' : FiberId} (h : f = f') :
    LeafAgree (.interrupted t f : Cause ε) (.interrupted t' f') :=
  ⟨.none, rfl, by simp [interruptor?, h]⟩

-- The three theorems follow `Item.eq`, `Item.listEq` and `Item.matchAll`: a concurrent item's
-- branches are paired by the greedy matcher, and the pairs' leaves are compared in turn.
mutual
/-- Equal items hold the same leaves up to order. -/
theorem Item.leavesAgree_of_eq : (x y : Item ε) → Item.eq x y = true →
    LeavesAgree x.leaves y.leaves
  | .expected t e, y, h => by
    cases y <;> simp only [Item.eq, Bool.and_eq_true, reduceCtorEq] at h
    exact .single (leafAgree_expected h.2)
  | .unexpected t d, y, h => by
    cases y <;> simp only [Item.eq, Bool.and_eq_true, beq_iff_eq, reduceCtorEq] at h
    exact .single (leafAgree_unexpected h.2)
  | .interrupted t f, y, h => by
    cases y <;> simp only [Item.eq, Bool.and_eq_true, beq_iff_eq, reduceCtorEq] at h
    exact .single (leafAgree_interrupted h.2)
  | .traced l xs, y, h => by
    cases y with
    | traced l' ys =>
      simp only [Item.eq, Bool.and_eq_true] at h
      exact Item.leavesAgree_of_listEq xs ys h.2
    | _ => simp [Item.eq] at h
  | .par bs, y, h => by
    cases y with
    | par cs =>
      simp only [Item.eq, Bool.and_eq_true, beq_iff_eq] at h
      obtain ⟨cs', hagree, hlen, hsub⟩ := Item.leavesAgree_of_matchAll bs (cs.map some) h.2
      have hslots : (cs.map some).reduceOption = cs := by simp [List.reduceOption]
      rw [hslots] at hsub
      -- as many branches were placed as there are on the right, so all of them were
      have hp : cs'.Perm cs := hsub.perm_of_length_le (by omega)
      rw [Item.leaves, Item.leaves]
      refine hagree.perm ?_
      simp only [Item.branchLeaves_eq_flatMap]
      exact hp.flatMap_right _
    | _ => simp [Item.eq] at h

/-- Item-wise equal lists hold the same leaves up to order. -/
theorem Item.leavesAgree_of_listEq : (xs ys : List (Item ε)) → Item.listEq xs ys = true →
    LeavesAgree (Item.listLeaves xs) (Item.listLeaves ys)
  | [], [], _ => .nil
  | [], _ :: _, h => by simp [Item.listEq] at h
  | _ :: _, [], h => by simp [Item.listEq] at h
  | x :: xs, y :: ys, h => by
    simp only [Item.listEq, Bool.and_eq_true] at h
    exact (Item.leavesAgree_of_eq x y h.1).append (Item.leavesAgree_of_listEq xs ys h.2)

theorem Item.leavesAgree_of_matchAll : (bs : List (List (Item ε))) →
    (slots : List (Option (List (Item ε)))) → Item.matchAll bs slots = true →
    ∃ cs, LeavesAgree (Item.branchLeaves bs) (Item.branchLeaves cs) ∧ cs.length = bs.length ∧
      cs.Subperm slots.reduceOption
  | [], _, _ => ⟨[], .nil, rfl, List.nil_subperm⟩
  | b :: bs, slots, h => by
    simp only [Item.matchAll] at h
    split at h
    · next rest hrest =>
      obtain ⟨pre, c, post, hslots, hrest', hbc⟩ := Item.takeFirst_eq_some hrest
      obtain ⟨cs, hagree, hlen, hsub⟩ := Item.leavesAgree_of_matchAll bs rest h
      rw [hrest'] at hsub
      refine ⟨c :: cs, (Item.leavesAgree_of_listEq b c hbc).append hagree, by simp [hlen], ?_⟩
      rw [hslots]
      exact ((List.subperm_cons c).2 hsub).trans List.perm_middle.symm.subperm
    · cases h
end

theorem leavesAgree_of_equiv {a b : Cause ε} (h : a.equiv b = true) :
    LeavesAgree a.leaves b.leaves := by
  rw [← (listLeaves_items a).1, ← (listLeaves_items b).1]
  exact Item.leavesAgree_of_listEq _ _ h

theorem LeavesAgree.failures {xs ys : List (Cause ε)} (h : LeavesAgree xs ys) :
    ∃ zs, List.Forall₂ (fun e e' => (e == e') = true) (xs.filterMap error?) zs ∧
      zs.Perm (ys.filterMap error?) := by
  obtain ⟨zs, hf, hp⟩ := h
  exact ⟨zs.filterMap error?, List.rel_filterMap (fun _ _ h => h.1) hf, hp.filterMap _⟩

/-- A query that leaves read the same way gives a plain reordering. -/
theorem LeavesAgree.filterMap {β : Type} {q : Cause ε → Option β}
    (hq : ∀ l l', LeafAgree l l' → q l = q l') {xs ys : List (Cause ε)}
    (h : LeavesAgree xs ys) : (xs.filterMap q).Perm (ys.filterMap q) := by
  obtain ⟨zs, hf, hp⟩ := h
  have heq : xs.filterMap q = zs.filterMap q := by
    rw [← List.forall₂_eq_eq_eq]
    exact List.rel_filterMap (fun l l' h => by rw [hq l l' h]; cases q l' <;> simp) hf
  exact heq ▸ hp.filterMap q

theorem failures_agree_of_equiv {a b : Cause ε} (h : a.equiv b = true) :
    ∃ fs, List.Forall₂ (fun e e' => (e == e') = true) a.failures fs ∧ fs.Perm b.failures :=
  (leavesAgree_of_equiv h).failures

theorem failures_perm_of_equiv (hl : ∀ e e' : ε, (e == e') = true → e = e') {a b : Cause ε}
    (h : a.equiv b = true) : a.failures.Perm b.failures := by
  obtain ⟨fs, hf, hp⟩ := failures_agree_of_equiv h
  have hfs : a.failures = fs := by
    rw [← List.forall₂_eq_eq_eq]
    exact hf.imp fun e e' => hl e e'
  exact hfs ▸ hp

theorem defects_perm_of_equiv {a b : Cause ε} (h : a.equiv b = true) :
    a.defects.Perm b.defects :=
  (leavesAgree_of_equiv h).filterMap fun _ _ hl => hl.2.1

theorem interruptors_perm_of_equiv {a b : Cause ε} (h : a.equiv b = true) :
    a.interruptors.Perm b.interruptors :=
  (leavesAgree_of_equiv h).filterMap fun _ _ hl => hl.2.2

theorem length_failures_of_equiv {a b : Cause ε} (h : a.equiv b = true) :
    a.failures.length = b.failures.length := by
  obtain ⟨fs, hf, hp⟩ := failures_agree_of_equiv h
  exact hf.length_eq.trans hp.length_eq

theorem isInterrupted_eq_of_equiv {a b : Cause ε} (h : a.equiv b = true) :
    a.isInterrupted = b.isInterrupted := by
  have hlen := (interruptors_perm_of_equiv h).length_eq
  simp only [isInterrupted]
  cases ha : a.interruptors <;> cases hb : b.interruptors <;> simp_all

theorem isInterruptedOnly_eq_of_equiv {a b : Cause ε} (h : a.equiv b = true) :
    a.isInterruptedOnly = b.isInterruptedOnly := by
  have hi := (interruptors_perm_of_equiv h).length_eq
  have hf := length_failures_of_equiv h
  have hd := (defects_perm_of_equiv h).length_eq
  rw [Bool.eq_iff_iff, isInterruptedOnly_iff, isInterruptedOnly_iff]
  simp only [ne_eq, ← List.length_eq_zero_iff, hi, hf, hd]

/-- The queries of a cause agree with `combine` and with semantic equality. -/
theorem queries_agree_with_equality (a b c : Cause ε) :
    (combine a b).failures = a.failures ++ b.failures ∧
    (combine a b).defects = a.defects ++ b.defects ∧
    (combine a b).interruptors = a.interruptors ++ b.interruptors ∧
    (a.equiv b = true →
      (∃ fs, List.Forall₂ (fun e e' => (e == e') = true) a.failures fs ∧
        fs.Perm b.failures) ∧
      ((∀ e e' : ε, (e == e') = true → e = e') → a.failures.Perm b.failures) ∧
      a.defects.Perm b.defects ∧ a.interruptors.Perm b.interruptors ∧
      a.isInterrupted = b.isInterrupted ∧ a.isInterruptedOnly = b.isInterruptedOnly) ∧
    (c.isInterruptedOnly = true ↔ c.interruptors ≠ [] ∧ c.failures = [] ∧ c.defects = []) :=
  ⟨failures_combine a b, defects_combine a b, interruptors_combine a b,
    fun h => ⟨failures_agree_of_equiv h, fun hl => failures_perm_of_equiv hl h,
      defects_perm_of_equiv h, interruptors_perm_of_equiv h, isInterrupted_eq_of_equiv h,
      isInterruptedOnly_eq_of_equiv h⟩,
    isInterruptedOnly_iff c⟩

end Agreement

theorem queries_agree_with_equality_swapped :
    (∀ e e' : Nat, (e == e') = true → e = e') ∧
    (par (.expected Time.zero 1) (.interrupted Time.zero .none) : Cause Nat).equiv
      (par (.interrupted Time.zero .none) (.expected Time.zero 1)) = true ∧
    ((combine (par (.expected Time.zero 1) (.interrupted Time.zero .none))
        (par (.interrupted Time.zero .none) (.expected Time.zero 1)) : Cause Nat).failures =
      (par (.expected Time.zero 1) (.interrupted Time.zero .none) : Cause Nat).failures ++
        (par (.interrupted Time.zero .none) (.expected Time.zero 1) : Cause Nat).failures ∧
    (combine (par (.expected Time.zero 1) (.interrupted Time.zero .none))
        (par (.interrupted Time.zero .none) (.expected Time.zero 1)) : Cause Nat).defects =
      (par (.expected Time.zero 1) (.interrupted Time.zero .none) : Cause Nat).defects ++
        (par (.interrupted Time.zero .none) (.expected Time.zero 1) : Cause Nat).defects ∧
    (combine (par (.expected Time.zero 1) (.interrupted Time.zero .none))
        (par (.interrupted Time.zero .none) (.expected Time.zero 1)) : Cause Nat).interruptors =
      (par (.expected Time.zero 1) (.interrupted Time.zero .none) : Cause Nat).interruptors ++
        (par (.interrupted Time.zero .none) (.expected Time.zero 1) : Cause Nat).interruptors ∧
    ((par (.expected Time.zero 1) (.interrupted Time.zero .none) : Cause Nat).equiv
        (par (.interrupted Time.zero .none) (.expected Time.zero 1)) = true →
      (∃ fs, List.Forall₂ (fun e e' => (e == e') = true)
        (par (.expected Time.zero 1) (.interrupted Time.zero .none) : Cause Nat).failures fs ∧
        fs.Perm
          (par (.interrupted Time.zero .none) (.expected Time.zero 1) : Cause Nat).failures) ∧
      ((∀ e e' : Nat, (e == e') = true → e = e') →
        (par (.expected Time.zero 1) (.interrupted Time.zero .none) : Cause Nat).failures.Perm
          (par (.interrupted Time.zero .none) (.expected Time.zero 1) : Cause Nat).failures) ∧
      (par (.expected Time.zero 1) (.interrupted Time.zero .none) : Cause Nat).defects.Perm
        (par (.interrupted Time.zero .none) (.expected Time.zero 1) : Cause Nat).defects ∧
      (par (.expected Time.zero 1) (.interrupted Time.zero .none) : Cause Nat).interruptors.Perm
        (par (.interrupted Time.zero .none) (.expected Time.zero 1) : Cause Nat).interruptors ∧
      (par (.expected Time.zero 1) (.interrupted Time.zero .none) : Cause Nat).isInterrupted =
        (par (.interrupted Time.zero .none) (.expected Time.zero 1) : Cause Nat).isInterrupted ∧
      (par (.expected Time.zero 1) (.interrupted Time.zero .none) : Cause Nat).isInterruptedOnly =
        (par (.interrupted Time.zero .none) (.expected Time.zero 1) :
          Cause Nat).isInterruptedOnly) ∧
    ((Cause.interrupted Time.zero .none : Cause Nat).isInterruptedOnly = true ↔
      (Cause.interrupted Time.zero .none : Cause Nat).interruptors ≠ [] ∧
        (Cause.interrupted Time.zero .none : Cause Nat).failures = [] ∧
        (Cause.interrupted Time.zero .none : Cause Nat).defects = [])) :=
  ⟨fun _ _ h => beq_iff_eq.1 h, equiv_par_comm _ _,
    queries_agree_with_equality (par (.expected Time.zero 1) (.interrupted Time.zero .none))
      (par (.interrupted Time.zero .none) (.expected Time.zero 1)) (.interrupted Time.zero .none)⟩

end Cause

end FiberEffects
