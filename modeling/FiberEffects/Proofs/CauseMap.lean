import FiberEffects.Proofs.ConcurrentCauses

namespace FiberEffects

namespace Cause

variable {ε ε' ε'' : Type}

theorem map_combine (f : ε → ε') (a b : Cause ε) :
    (combine a b).map f = combine (a.map f) (b.map f) := by
  cases a <;> cases b <;> rfl

mutual
def Item.map (f : ε → ε') : Item ε → Item ε'
  | .expected t e => .expected t (f e)
  | .unexpected t d => .unexpected t d
  | .interrupted t fib => .interrupted t fib
  | .traced l xs => .traced l (Item.mapList f xs)
  | .par bs => .par (Item.mapBranches f bs)

def Item.mapList (f : ε → ε') : List (Item ε) → List (Item ε')
  | [] => []
  | x :: xs => x.map f :: Item.mapList f xs

def Item.mapBranches (f : ε → ε') : List (List (Item ε)) → List (List (Item ε'))
  | [] => []
  | b :: bs => Item.mapList f b :: Item.mapBranches f bs
end

theorem Item.mapList_eq_map (f : ε → ε') (xs : List (Item ε)) :
    Item.mapList f xs = xs.map (Item.map f) := by
  induction xs with
  | nil => rfl
  | cons x xs ih => simp [Item.mapList, ih]

theorem Item.mapBranches_eq_map (f : ε → ε') (bs : List (List (Item ε))) :
    Item.mapBranches f bs = bs.map (Item.mapList f) := by
  induction bs with
  | nil => rfl
  | cons b bs ih => simp [Item.mapBranches, ih]

theorem Item.mapList_join (f : ε → ε') (bs : List (List (Item ε))) :
    Item.mapList f (Item.join bs) = Item.join (Item.mapBranches f bs) := by
  rcases bs with _ | ⟨b, _ | ⟨c, bs⟩⟩
  · rfl
  · simp [Item.join, Item.mapBranches]
  · simp [Item.join, Item.mapBranches, Item.mapList, Item.map]

/-- The normal form of a mapped cause is its mapped normal form, and so are its branches. -/
theorem items_map (f : ε → ε') (c : Cause ε) :
    (c.map f).items = Item.mapList f c.items ∧
      (c.map f).branches = Item.mapBranches f c.branches := by
  induction c with
  | empty => simp [map, items, Item.mapList, Item.mapBranches]
  | expected t e => simp [map, items, branches, Item.mapList, Item.mapBranches, Item.map]
  | unexpected t d => simp [map, items, branches, Item.mapList, Item.mapBranches, Item.map]
  | interrupted t fib => simp [map, items, branches, Item.mapList, Item.mapBranches, Item.map]
  | seq l r ihl ihr =>
    have hitems : (seq (l.map f) (r.map f)).items = Item.mapList f (seq l r).items := by
      simp [ihl.1, ihr.1, Item.mapList_eq_map]
    refine ⟨hitems, ?_⟩
    simp only [map, branches, Item.mapBranches]
    rw [← hitems]
  | par l r ihl ihr =>
    have hbranches :
        (par (l.map f) (r.map f)).branches = Item.mapBranches f (par l r).branches := by
      simp [ihl.2, ihr.2, Item.mapBranches_eq_map]
    refine ⟨?_, hbranches⟩
    rw [map, items_par, ← branches_par, hbranches, items_par, ← branches_par, Item.mapList_join]
  | traced c lbl ih =>
    have hitems : (traced (c.map f) lbl).items = Item.mapList f (traced c lbl).items := by
      simp [items, ih.1, Item.mapList, Item.map]
    refine ⟨hitems, ?_⟩
    simp only [map, branches, Item.mapBranches]
    rw [← hitems]

section Equality

variable [BEq ε] [BEq ε'] {f : ε → ε'}

-- The three theorems follow `Item.eq`, `Item.listEq` and `Item.matchAll`: the branches the
-- greedy matcher paired before the map stay equal after it.
mutual
/-- Equal items stay equal once mapped, except that concurrent branches are paired as a whole. -/
theorem Item.eq_map [PartialEquivBEq ε']
    (hf : ∀ e e' : ε, (e == e') = true → (f e == f e') = true) :
    (x y : Item ε) → Item.eq x y = true → Item.eq (x.map f) (y.map f) = true
  | .expected t e, y, h => by
    cases y <;> simp only [Item.eq, Bool.and_eq_true, reduceCtorEq] at h
    simp only [Item.map, Item.eq, Bool.and_eq_true]
    exact ⟨h.1, hf _ _ h.2⟩
  -- defects and interruptions carry no error: the map leaves them as they are
  | .unexpected _ _, y, h | .interrupted _ _, y, h => by
    cases y <;> simp only [Item.eq, Bool.and_eq_true, reduceCtorEq] at h
    simpa only [Item.map, Item.eq, Bool.and_eq_true] using h
  | .traced l xs, y, h => by
    cases y with
    | traced l' ys =>
      simp only [Item.eq, Bool.and_eq_true] at h
      simp only [Item.map, Item.eq, Bool.and_eq_true]
      exact ⟨h.1, Item.listEq_map hf xs ys h.2⟩
    | _ => simp [Item.eq] at h
  | .par bs, y, h => by
    cases y with
    | par cs =>
      simp only [Item.eq, Bool.and_eq_true, beq_iff_eq] at h
      obtain ⟨cs', hpairs, hlen, hsub⟩ := Item.matchAll_map hf bs (cs.map some) h.2
      have hslots : (cs.map some).reduceOption = cs := by simp [List.reduceOption]
      rw [hslots] at hsub
      have hp : cs'.Perm cs := hsub.perm_of_length_le (by omega)
      -- the mapped branches are the same as multisets, which greedy matching decides
      rw [Item.map, Item.map, Item.eq_par_iff Item.equivOn.listEq (fun _ _ _ _ => trivial)
        (fun _ _ _ _ => trivial)]
      refine ⟨Item.mapBranches f cs', ?_, ?_⟩
      · simpa only [Item.mapBranches_eq_map, List.forall₂_map_left_iff,
          List.forall₂_map_right_iff] using hpairs
      · simpa only [Item.mapBranches_eq_map] using hp.map _
    | _ => simp [Item.eq] at h

/-- Item-wise equal lists stay item-wise equal once mapped. -/
theorem Item.listEq_map [PartialEquivBEq ε']
    (hf : ∀ e e' : ε, (e == e') = true → (f e == f e') = true) : (xs ys : List (Item ε)) →
    Item.listEq xs ys = true → Item.listEq (Item.mapList f xs) (Item.mapList f ys) = true
  | [], [], _ => by simp [Item.mapList, Item.listEq]
  | [], _ :: _, h => by simp [Item.listEq] at h
  | _ :: _, [], h => by simp [Item.listEq] at h
  | x :: xs, y :: ys, h => by
    simp only [Item.listEq, Bool.and_eq_true] at h
    simp only [Item.mapList, Item.listEq, Bool.and_eq_true]
    exact ⟨Item.eq_map hf x y h.1, Item.listEq_map hf xs ys h.2⟩

theorem Item.matchAll_map [PartialEquivBEq ε']
    (hf : ∀ e e' : ε, (e == e') = true → (f e == f e') = true) :
    (bs : List (List (Item ε))) → (slots : List (Option (List (Item ε)))) →
    Item.matchAll bs slots = true →
    ∃ cs, List.Forall₂ (fun b c => Item.listEq (Item.mapList f b) (Item.mapList f c) = true)
      bs cs ∧ cs.length = bs.length ∧ cs.Subperm slots.reduceOption
  | [], _, _ => ⟨[], .nil, rfl, List.nil_subperm⟩
  | b :: bs, slots, h => by
    simp only [Item.matchAll] at h
    split at h
    · next rest hrest =>
      obtain ⟨pre, c, post, hslots, hrest', hbc⟩ := Item.takeFirst_eq_some hrest
      obtain ⟨cs, hpairs, hlen, hsub⟩ := Item.matchAll_map hf bs rest h
      rw [hrest'] at hsub
      refine ⟨c :: cs, .cons (Item.listEq_map hf b c hbc) hpairs, by simp [hlen], ?_⟩
      rw [hslots]
      exact ((List.subperm_cons c).2 hsub).trans List.perm_middle.symm.subperm
    · cases h
end

theorem equiv_map [PartialEquivBEq ε']
    (hf : ∀ e e' : ε, (e == e') = true → (f e == f e') = true) {a b : Cause ε}
    (h : a.equiv b = true) : (a.map f).equiv (b.map f) = true := by
  rw [equiv, (items_map f a).1, (items_map f b).1]
  exact Item.listEq_map hf _ _ h

end Equality

/-- Mapping the errors is a functor on causes and commutes with `combine`. -/
theorem map_functor_laws [BEq ε] [BEq ε'] [PartialEquivBEq ε'] (a b : Cause ε) (f : ε → ε')
    (g : ε' → ε'') :
    a.map id = a ∧ (a.map f).map g = a.map (g ∘ f) ∧
    (combine a b).map f = combine (a.map f) (b.map f) ∧
    (a.map f).failures = a.failures.map f ∧ (a.map f).defects = a.defects ∧
    (a.map f).interruptors = a.interruptors ∧
    ((∀ e e' : ε, (e == e') = true → (f e == f e') = true) → a.equiv b = true →
      (a.map f).equiv (b.map f) = true) :=
  ⟨map_id a, map_map f g a, map_combine f a b, failures_map f a, defects_map f a,
    interruptors_map f a, fun hf h => equiv_map hf h⟩

theorem map_functor_laws_zeros :
    (∀ e e' : Json, (e == e') = true → (Json.arr [e] == Json.arr [e']) = true) ∧
    (expected Time.zero (.float Binary64.zero) : Cause Json).equiv
      (expected Time.zero (.float Binary64.zero.neg)) = true ∧
    ((expected Time.zero (.float Binary64.zero) : Cause Json).map id =
        expected Time.zero (.float Binary64.zero) ∧
      (((expected Time.zero (.float Binary64.zero) : Cause Json).map
          (fun e => Json.arr [e])).map id =
        (expected Time.zero (.float Binary64.zero) : Cause Json).map
          (id ∘ (fun e => Json.arr [e]))) ∧
      (combine (expected Time.zero (.float Binary64.zero))
          (expected Time.zero (.float Binary64.zero.neg)) : Cause Json).map
          (fun e => Json.arr [e]) =
        combine ((expected Time.zero (.float Binary64.zero) : Cause Json).map
            (fun e => Json.arr [e]))
          ((expected Time.zero (.float Binary64.zero.neg) : Cause Json).map
            (fun e => Json.arr [e])) ∧
      ((expected Time.zero (.float Binary64.zero) : Cause Json).map
          (fun e => Json.arr [e])).failures =
        (expected Time.zero (.float Binary64.zero) : Cause Json).failures.map
          (fun e => Json.arr [e]) ∧
      ((expected Time.zero (.float Binary64.zero) : Cause Json).map
          (fun e => Json.arr [e])).defects =
        (expected Time.zero (.float Binary64.zero) : Cause Json).defects ∧
      ((expected Time.zero (.float Binary64.zero) : Cause Json).map
          (fun e => Json.arr [e])).interruptors =
        (expected Time.zero (.float Binary64.zero) : Cause Json).interruptors ∧
      ((∀ e e' : Json, (e == e') = true → (Json.arr [e] == Json.arr [e']) = true) →
        (expected Time.zero (.float Binary64.zero) : Cause Json).equiv
          (expected Time.zero (.float Binary64.zero.neg)) = true →
        ((expected Time.zero (.float Binary64.zero) : Cause Json).map
            (fun e => Json.arr [e])).equiv
          ((expected Time.zero (.float Binary64.zero.neg) : Cause Json).map
            (fun e => Json.arr [e])) = true)) := by
  have hwrap : ∀ e e' : Json, (e == e') = true → (Json.arr [e] == Json.arr [e']) = true := by
    intro e e' h
    show Json.beq _ _ = true
    simp only [Json.beq, Json.beq.beqList, Bool.and_true]
    exact h
  have hzeros : (expected Time.zero (.float Binary64.zero) : Cause Json).equiv
      (expected Time.zero (.float Binary64.zero.neg)) = true := by
    simp [equiv, items, Item.listEq, Item.eq, BEq.beq, Json.beq, Binary64.sameValue,
      Binary64.isZero, Binary64.zero, Binary64.neg]
  exact ⟨hwrap, hzeros, map_functor_laws (expected Time.zero (.float Binary64.zero))
    (expected Time.zero (.float Binary64.zero.neg)) (fun e => Json.arr [e]) id⟩

/-- Writing errors as text does not keep semantic equality: the two zeros have different texts. -/
theorem map_text_separates_zeros :
    (expected Time.zero (.float Binary64.zero) : Cause Json).equiv
      (expected Time.zero (.float Binary64.zero.neg)) = true ∧
    ((expected Time.zero (.float Binary64.zero) : Cause Json).map
        fun e => Json.str e.compact).equiv
      ((expected Time.zero (.float Binary64.zero.neg) : Cause Json).map
        fun e => Json.str e.compact) = false := by
  constructor
  · simp [equiv, items, Item.listEq, Item.eq, BEq.beq, Json.beq, Binary64.sameValue,
      Binary64.isZero, Binary64.zero, Binary64.neg]
  · simp [equiv, map, items, Item.listEq, Item.eq, BEq.beq, Json.beq, Json.compact,
      Binary64.render, Binary64.isZero, Binary64.zero, Binary64.neg]
    decide

end Cause

end FiberEffects
