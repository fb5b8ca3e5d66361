import FiberEffects.Proofs.CauseMonoid
import Mathlib.Data.List.Perm.Basic
import Mathlib.Data.List.Forall2
import Mathlib.Data.List.ReduceOption

namespace FiberEffects

namespace Json

-- Structural recursion through the nested lists of arrays and objects, as for `beq_self`.
mutual
theorem beq_symm : (a b : Json) → beq a b = true → beq b a = true
  | .null, b, h => by cases b <;> simp_all [beq]
  | .bool x, b, h => by
    cases b with
    | bool y => simp only [beq, beq_iff_eq] at h ⊢; exact h.symm
    | _ => simp [beq] at h
  | .int x, b, h => by
    cases b with
    | int y => simp only [beq, beq_iff_eq] at h ⊢; exact h.symm
    | _ => simp [beq] at h
  | .float x, b, h => by
    cases b with
    | float y =>
      simp only [beq, Binary64.sameValue, Bool.or_eq_true, Bool.and_eq_true, decide_eq_true_eq]
        at h ⊢
      rcases h with ⟨hx, hy⟩ | rfl
      · exact .inl ⟨hy, hx⟩
      · exact .inr rfl
    | _ => simp [beq] at h
  | .str x, b, h => by
    cases b with
    | str y => simp only [beq, beq_iff_eq] at h ⊢; exact h.symm
    | _ => simp [beq] at h
  | .arr xs, b, h => by
    cases b with
    | arr ys => rw [beq] at h ⊢; exact beqList_symm xs ys h
    | _ => simp [beq] at h
  | .obj fs, b, h => by
    cases b with
    | obj gs => rw [beq] at h ⊢; exact beqFields_symm fs gs h
    | _ => simp [beq] at h

theorem beqList_symm : (xs ys : List Json) → beq.beqList xs ys = true → beq.beqList ys xs = true
  | [], [], _ => rfl
  | [], _ :: _, h => by simp [beq.beqList] at h
  | _ :: _, [], h => by simp [beq.beqList] at h
  | x :: xs, y :: ys, h => by
    simp only [beq.beqList, Bool.and_eq_true] at h ⊢
    exact ⟨beq_symm x y h.1, beqList_symm xs ys h.2⟩

theorem beqFields_symm : (fs gs : List (String × Json)) →
    beq.beqFields fs gs = true → beq.beqFields gs fs = true
  | [], [], _ => rfl
  | [], _ :: _, h => by simp [beq.beqFields] at h
  | _ :: _, [], h => by simp [beq.beqFields] at h
  | (k, x) :: fs, (k', y) :: gs, h => by
    simp only [beq.beqFields, Bool.and_eq_true, beq_iff_eq] at h ⊢
    exact ⟨⟨h.1.1.symm, beq_symm x y h.1.2⟩, beqFields_symm fs gs h.2⟩
end

mutual
theorem beq_trans : (a b c : Json) → beq a b = true → beq b c = true → beq a c = true
  | .null, b, c, h, h' => by cases b <;> cases c <;> simp_all [beq]
  | .bool x, b, c, h, h' => by
    cases b with
    | bool y =>
      cases c with
      | bool z => simp only [beq, beq_iff_eq] at h h' ⊢; exact h.trans h'
      | _ => simp [beq] at h'
    | _ => simp [beq] at h
  | .int x, b, c, h, h' => by
    cases b with
    | int y =>
      cases c with
      | int z => simp only [beq, beq_iff_eq] at h h' ⊢; exact h.trans h'
      | _ => simp [beq] at h'
    | _ => simp [beq] at h
  | .float x, b, c, h, h' => by
    cases b with
    | float y =>
      cases c with
      | float z =>
        simp only [beq, Binary64.sameValue, Bool.or_eq_true, Bool.and_eq_true, decide_eq_true_eq]
          at h h' ⊢
        -- two zeros are equal whatever their signs; otherwise the values are the same
        rcases h with ⟨hx, hy⟩ | rfl
        · rcases h' with ⟨-, hz⟩ | rfl
          · exact .inl ⟨hx, hz⟩
          · exact .inl ⟨hx, hy⟩
        · exact h'
      | _ => simp [beq] at h'
    | _ => simp [beq] at h
  | .str x, b, c, h, h' => by
    cases b with
    | str y =>
      cases c with
      | str z => simp only [beq, beq_iff_eq] at h h' ⊢; exact h.trans h'
      | _ => simp [beq] at h'
    | _ => simp [beq] at h
  | .arr xs, b, c, h, h' => by
    cases b with
    | arr ys =>
      cases c with
      | arr zs => rw [beq] at h h' ⊢; exact beqList_trans xs ys zs h h'
      | _ => simp [beq] at h'
    | _ => simp [beq] at h
  | .obj fs, b, c, h, h' => by
    cases b with
    | obj gs =>
      cases c with
      | obj hs => rw [beq] at h h' ⊢; exact beqFields_trans fs gs hs h h'
      | _ => simp [beq] at h'
    | _ => simp [beq] at h

theorem beqList_trans : (xs ys zs : List Json) → beq.beqList xs ys = true →
    beq.beqList ys zs = true → beq.beqList xs zs = true
  | [], [], [], _, _ => rfl
  | [], _ :: _, _, h, _ => by simp [beq.beqList] at h
  | _ :: _, [], _, h, _ => by simp [beq.beqList] at h
  | _, [], _ :: _, _, h' => by simp [beq.beqList] at h'
  | _, _ :: _, [], _, h' => by simp [beq.beqList] at h'
  | x :: xs, y :: ys, z :: zs, h, h' => by
    simp only [beq.beqList, Bool.and_eq_true] at h h' ⊢
    exact ⟨beq_trans x y z h.1 h'.1, beqList_trans xs ys zs h.2 h'.2⟩

theorem beqFields_trans : (fs gs hs : List (String × Json)) → beq.beqFields fs gs = true →
    beq.beqFields gs hs = true → beq.beqFields fs hs = true
  | [], [], [], _, _ => rfl
  | [], _ :: _, _, h, _ => by simp [beq.beqFields] at h
  | _ :: _, [], _, h, _ => by simp [beq.beqFields] at h
  | _, [], _ :: _, _, h' => by simp [beq.beqFields] at h'
  | _, _ :: _, [], _, h' => by simp [beq.beqFields] at h'
  | (k, x) :: fs, (k', y) :: gs, (k'', z) :: hs, h, h' => by
    simp only [beq.beqFields, Bool.and_eq_true, beq_iff_eq] at h h' ⊢
    exact ⟨⟨h.1.1.trans h'.1.1, beq_trans x y z h.1.2 h'.1.2⟩,
      beqFields_trans fs gs hs h.2 h'.2⟩
end

instance : EquivBEq Json where
  symm h := beq_symm _ _ h
  trans h h' := beq_trans _ _ _ h h'

end Json

namespace Cause

variable {ε : Type}

theorem Item.traced_items_lt {l : String} {xs : List (Item ε)} {N : Nat}
    (h : sizeOf (Item.traced l xs) < N + 1) : ∀ x ∈ xs, sizeOf x < N := by
  intro x hx
  have := List.sizeOf_lt_of_mem hx
  simp only [Item.traced.sizeOf_spec] at h
  omega

theorem Item.par_items_lt {bs : List (List (Item ε))} {N : Nat}
    (h : sizeOf (Item.par bs) < N + 1) : ∀ b ∈ bs, ∀ x ∈ b, sizeOf x < N := by
  intro b hb x hx
  have := List.sizeOf_lt_of_mem hx
  have := List.sizeOf_lt_of_mem hb
  simp only [Item.par.sizeOf_spec] at h
  omega

variable [BEq ε]

def Item.SameBranches (bs cs : List (List (Item ε))) : Prop :=
  ∃ cs', List.Forall₂ (fun b c => Item.listEq b c = true) bs cs' ∧ cs'.Perm cs

theorem Item.takeFirst_eq_some {b : List (Item ε)} {slots rest : List (Option (List (Item ε)))}
    (h : Item.takeFirst b slots = some rest) :
    ∃ pre c post, slots.reduceOption = pre ++ c :: post ∧ rest.reduceOption = pre ++ post ∧
      Item.listEq b c = true := by
  induction slots generalizing rest with
  | nil => simp [Item.takeFirst] at h
  | cons s slots ih =>
    cases s with
    | none =>
      simp only [Item.takeFirst, Option.map_eq_some_iff] at h
      obtain ⟨rest', h', rfl⟩ := h
      simpa using ih h'
    | some c =>
      simp only [Item.takeFirst] at h
      split at h
      · next hc =>
        cases h
        exact ⟨[], c, slots.reduceOption, by simp, by simp, hc⟩
      · obtain ⟨rest', h', rfl⟩ := Option.map_eq_some_iff.1 h
        obtain ⟨pre, c', post, h1, h2, h3⟩ := ih h'
        exact ⟨c :: pre, c', post, by simp [h1], by simp [h2], h3⟩

/-- `takeFirst` places a branch whenever some filled slot holds an equal one. -/
theorem Item.takeFirst_isSome {b c : List (Item ε)} {slots : List (Option (List (Item ε)))}
    (hc : c ∈ slots.reduceOption) (hbc : Item.listEq b c = true) :
    (Item.takeFirst b slots).isSome := by
  induction slots with
  | nil => simp at hc
  | cons s slots ih =>
    cases s with
    | none =>
      simp only [List.reduceOption_cons_of_none] at hc
      simpa [Item.takeFirst] using ih hc
    | some c' =>
      simp only [Item.takeFirst]
      split
      · rfl
      · next hne =>
        rcases List.mem_cons.1 (by simpa using hc) with rfl | hc
        · exact absurd hbc hne
        · simpa using ih (by simpa using hc)

theorem Item.matchAll_sound {bs : List (List (Item ε))} {slots : List (Option (List (Item ε)))}
    (h : Item.matchAll bs slots = true) :
    ∃ cs, List.Forall₂ (fun b c => Item.listEq b c = true) bs cs ∧
      cs.Subperm slots.reduceOption := by
  induction bs generalizing slots with
  | nil => exact ⟨[], .nil, List.nil_subperm⟩
  | cons b bs ih =>
    simp only [Item.matchAll] at h
    split at h
    · next rest hrest =>
      obtain ⟨cs, hf, hsub⟩ := ih h
      obtain ⟨pre, c, post, hslots, hrest', hbc⟩ := Item.takeFirst_eq_some hrest
      refine ⟨c :: cs, .cons hbc hf, ?_⟩
      rw [hslots]
      rw [hrest'] at hsub
      exact ((List.subperm_cons c).2 hsub).trans List.perm_middle.symm.subperm
    · cases h

/-- A boolean relation is symmetric and transitive on the values a predicate admits. -/
structure EquivOn {α : Type} (r : α → α → Bool) (P : α → Prop) : Prop where
  symm : ∀ {x y}, P x → P y → r x y = true → r y x = true
  trans : ∀ {x y z}, P x → P y → P z → r x y = true → r y z = true → r x z = true

section Bounded

variable {P : List (Item ε) → Prop}

theorem Item.exchange (hP : EquivOn Item.listEq P) {b e c : List (Item ε)}
    {bs es L : List (List (Item ε))} (hb : P b) (hbs : ∀ x ∈ bs, P x)
    (hes : ∀ x ∈ e :: es, P x)
    (hf : List.Forall₂ (fun x y => Item.listEq x y = true) bs es)
    (hbe : Item.listEq b e = true) (hbc : Item.listEq b c = true) (hp : (e :: es).Perm (c :: L)) :
    ∃ X, List.Forall₂ (fun x y => Item.listEq x y = true) bs X ∧ X.Perm L := by
  have hc : c ∈ e :: es := hp.symm.subset List.mem_cons_self
  rcases List.mem_cons.1 hc with rfl | hc
  · exact ⟨es, hf, hp.cons_inv⟩
  · obtain ⟨s, t, rfl⟩ := List.append_of_mem hc
    have htake := List.forall₂_take_append bs s (c :: t) hf
    obtain ⟨a, bs₂, hac, hf₂, hdrop⟩ :=
      List.forall₂_cons_right_iff.1 (List.forall₂_drop_append bs s (c :: t) hf)
    have ha : P a :=
      hbs a (List.mem_of_mem_drop (i := s.length) (by rw [hdrop]; exact List.mem_cons_self))
    have hPc : P c := hes c (by simp)
    have hPe : P e := hes e List.mem_cons_self
    -- `a` and `b` are both equal to `c`, so `a` is equal to `e`
    have hab : Item.listEq a b = true := hP.trans ha hPc hb hac (hP.symm hb hPc hbc)
    have hae : Item.listEq a e = true := hP.trans ha hb hPe hab hbe
    refine ⟨s ++ e :: t, ?_, ?_⟩
    · rw [← List.take_append_drop s.length bs, hdrop]
      exact List.rel_append htake (.cons hae hf₂)
    · apply List.Perm.cons_inv (a := c)
      calc List.Perm (c :: (s ++ e :: t)) (c :: e :: (s ++ t)) := List.perm_middle.cons c
        List.Perm _ (e :: c :: (s ++ t)) := List.Perm.swap e c _
        List.Perm _ (e :: (s ++ c :: t)) := (List.perm_middle.cons e).symm
        List.Perm _ (c :: L) := hp

theorem Item.matchAll_complete (hP : EquivOn Item.listEq P) {bs : List (List (Item ε))} :
    ∀ {es : List (List (Item ε))} {slots : List (Option (List (Item ε)))},
      (∀ x ∈ bs, P x) → (∀ x ∈ es, P x) →
      List.Forall₂ (fun x y => Item.listEq x y = true) bs es → es.Perm slots.reduceOption →
      Item.matchAll bs slots = true := by
  induction bs with
  | nil => intros; simp [Item.matchAll]
  | cons b bs ih =>
    intro es slots hbs hes hf hp
    obtain ⟨e, es, hbe, hf', rfl⟩ := List.forall₂_cons_left_iff.1 hf
    obtain ⟨hb, hbs⟩ := List.forall_mem_cons.1 hbs
    have he : e ∈ slots.reduceOption := hp.subset List.mem_cons_self
    obtain ⟨rest, hrest⟩ := Option.isSome_iff_exists.1 (Item.takeFirst_isSome he hbe)
    obtain ⟨pre, c, post, hslots, hrest', hbc⟩ := Item.takeFirst_eq_some hrest
    have hp' : (e :: es).Perm (c :: (pre ++ post)) := by
      rw [hslots] at hp
      exact hp.trans List.perm_middle
    obtain ⟨X, hX, hXp⟩ := Item.exchange hP hb hbs hes hf' hbe hbc hp'
    -- what is left to place lies among the filled slots, so the predicate holds of it
    have hleft : ∀ x ∈ X, P x := by
      intro x hx
      have hx' : x ∈ slots.reduceOption := by
        rw [hslots]
        rcases List.mem_append.1 (hXp.subset hx) with h | h <;> simp [h]
      exact hes x (hp.symm.subset hx')
    simp only [Item.matchAll, hrest]
    exact ih hbs hleft hX (hrest' ▸ hXp)

theorem Item.eq_par_iff (hP : EquivOn Item.listEq P) {bs cs : List (List (Item ε))}
    (hbs : ∀ x ∈ bs, P x) (hcs : ∀ x ∈ cs, P x) :
    Item.eq (.par bs) (.par cs) = true ↔ Item.SameBranches bs cs := by
  have hslots : (cs.map some).reduceOption = cs := by simp [List.reduceOption]
  simp only [Item.eq, Bool.and_eq_true, beq_iff_eq]
  constructor
  · rintro ⟨hlen, hm⟩
    obtain ⟨cs', hf, hsub⟩ := Item.matchAll_sound hm
    rw [hslots] at hsub
    exact ⟨cs', hf, hsub.perm_of_length_le (Nat.le_of_eq (hlen.symm.trans hf.length_eq))⟩
  · rintro ⟨cs', hf, hp⟩
    refine ⟨hf.length_eq.trans hp.length_eq, ?_⟩
    exact Item.matchAll_complete hP hbs (fun x hx => hcs x (hp.subset hx)) hf
      (by rw [hslots]; exact hp)

theorem Item.forall₂_symm (hP : EquivOn Item.listEq P) {bs cs : List (List (Item ε))}
    (hbs : ∀ x ∈ bs, P x) (hcs : ∀ x ∈ cs, P x)
    (hf : List.Forall₂ (fun x y => Item.listEq x y = true) bs cs) :
    List.Forall₂ (fun x y => Item.listEq x y = true) cs bs := by
  induction hf with
  | nil => exact .nil
  | cons hab _ ih =>
    rw [List.forall_mem_cons] at hbs hcs
    exact .cons (hP.symm hbs.1 hcs.1 hab) (ih hbs.2 hcs.2)

theorem Item.forall₂_trans (hP : EquivOn Item.listEq P) {bs cs ds : List (List (Item ε))}
    (hbs : ∀ x ∈ bs, P x) (hcs : ∀ x ∈ cs, P x) (hds : ∀ x ∈ ds, P x)
    (hf : List.Forall₂ (fun x y => Item.listEq x y = true) bs cs)
    (hf' : List.Forall₂ (fun x y => Item.listEq x y = true) cs ds) :
    List.Forall₂ (fun x y => Item.listEq x y = true) bs ds := by
  induction hf generalizing ds with
  | nil => cases hf'; exact .nil
  | cons hab _ ih =>
    obtain ⟨d, ds, hbd, hrest, rfl⟩ := List.forall₂_cons_left_iff.1 hf'
    rw [List.forall_mem_cons] at hbs hcs hds
    exact .cons (hP.trans hbs.1 hcs.1 hds.1 hab hbd) (ih hbs.2 hcs.2 hds.2 hrest)

theorem Item.SameBranches.symm (hP : EquivOn Item.listEq P) {bs cs : List (List (Item ε))}
    (hbs : ∀ x ∈ bs, P x) (hcs : ∀ x ∈ cs, P x) (h : Item.SameBranches bs cs) :
    Item.SameBranches cs bs := by
  obtain ⟨cs', hf, hp⟩ := h
  have hcs' : ∀ x ∈ cs', P x := fun x hx => hcs x (hp.subset hx)
  exact List.perm_comp_forall₂ hp.symm (Item.forall₂_symm hP hbs hcs' hf)

theorem Item.SameBranches.trans (hP : EquivOn Item.listEq P) {bs cs ds : List (List (Item ε))}
    (hbs : ∀ x ∈ bs, P x) (hcs : ∀ x ∈ cs, P x) (hds : ∀ x ∈ ds, P x)
    (h : Item.SameBranches bs cs) (h' : Item.SameBranches cs ds) : Item.SameBranches bs ds := by
  obtain ⟨cs', hf, hp⟩ := h
  obtain ⟨ds', hf', hp'⟩ := h'
  obtain ⟨m, hm, hmp⟩ := List.perm_comp_forall₂ hp hf'
  have hcs' : ∀ x ∈ cs', P x := fun x hx => hcs x (hp.subset hx)
  have hm' : ∀ x ∈ m, P x := fun x hx => hds x (hp'.subset (hmp.subset hx))
  exact ⟨m, Item.forall₂_trans hP hbs hcs' hm' hf hm, hmp.trans hp'⟩

end Bounded

section Items

variable {Q : Item ε → Prop}

/-- Item-wise equality of lists is symmetric and transitive where item equality is. -/
theorem EquivOn.listEq (h : EquivOn Item.eq Q) :
    EquivOn Item.listEq (fun xs => ∀ x ∈ xs, Q x) where
  symm := by
    intro xs ys hxs hys hxy
    induction xs generalizing ys with
    | nil => cases ys <;> simp_all [Item.listEq]
    | cons x xs ih =>
      cases ys with
      | nil => simp [Item.listEq] at hxy
      | cons y ys =>
        simp only [Item.listEq, Bool.and_eq_true, List.forall_mem_cons] at hxy hxs hys ⊢
        exact ⟨h.symm hxs.1 hys.1 hxy.1, ih hxs.2 hys.2 hxy.2⟩
  trans := by
    intro xs ys zs hxs hys hzs hxy hyz
    induction xs generalizing ys zs with
    | nil => cases ys <;> cases zs <;> simp_all [Item.listEq]
    | cons x xs ih =>
      cases ys with
      | nil => simp [Item.listEq] at hxy
      | cons y ys =>
        cases zs with
        | nil => simp [Item.listEq] at hyz
        | cons z zs =>
          simp only [Item.listEq, Bool.and_eq_true, List.forall_mem_cons]
            at hxy hyz hxs hys hzs ⊢
          exact ⟨h.trans hxs.1 hys.1 hzs.1 hxy.1 hyz.1, ih hxs.2 hys.2 hzs.2 hxy.2 hyz.2⟩

end Items

section Partial

-- symmetry and transitivity of item equality need only those of the errors' equality
variable [PartialEquivBEq ε]

section Step

variable {N : Nat}

/-- Symmetry one size up: the items compared inside two items below `N + 1` are below `N`. -/
theorem Item.eq_symm_succ (ih : EquivOn Item.eq (fun x : Item ε => sizeOf x < N))
    {x y : Item ε} (hx : sizeOf x < N + 1) (hy : sizeOf y < N + 1) (hxy : Item.eq x y = true) :
    Item.eq y x = true := by
  have hlist := ih.listEq
  -- items of different kinds are never equal
  cases x <;> cases y <;> try (simp [Item.eq] at hxy; done)
  -- a leaf compares its time and its payload, both by equivalences
  case expected.expected | unexpected.unexpected | interrupted.interrupted =>
    simp only [Item.eq, Bool.and_eq_true] at hxy ⊢
    exact ⟨BEq.symm hxy.1, BEq.symm hxy.2⟩
  case traced.traced l xs l' ys =>
    simp only [Item.eq, Bool.and_eq_true] at hxy ⊢
    exact ⟨BEq.symm hxy.1, hlist.symm (Item.traced_items_lt hx) (Item.traced_items_lt hy) hxy.2⟩
  case par.par bs cs =>
    have hbs := Item.par_items_lt hx
    have hcs := Item.par_items_lt hy
    rw [Item.eq_par_iff hlist hbs hcs] at hxy
    exact (Item.eq_par_iff hlist hcs hbs).2 (hxy.symm hlist hbs hcs)

theorem Item.eq_trans_succ (ih : EquivOn Item.eq (fun x : Item ε => sizeOf x < N))
    {x y z : Item ε} (hx : sizeOf x < N + 1) (hy : sizeOf y < N + 1) (hz : sizeOf z < N + 1)
    (hxy : Item.eq x y = true) (hyz : Item.eq y z = true) : Item.eq x z = true := by
  have hlist := ih.listEq
  cases x <;> cases y <;> try (simp [Item.eq] at hxy; done)
  all_goals cases z <;> try (simp [Item.eq] at hyz; done)
  case expected.expected.expected | unexpected.unexpected.unexpected
      | interrupted.interrupted.interrupted =>
    simp only [Item.eq, Bool.and_eq_true] at hxy hyz ⊢
    exact ⟨BEq.trans hxy.1 hyz.1, BEq.trans hxy.2 hyz.2⟩
  case traced.traced.traced l xs l' ys l'' zs =>
    simp only [Item.eq, Bool.and_eq_true] at hxy hyz ⊢
    exact ⟨BEq.trans hxy.1 hyz.1, hlist.trans (Item.traced_items_lt hx)
      (Item.traced_items_lt hy) (Item.traced_items_lt hz) hxy.2 hyz.2⟩
  case par.par.par bs cs ds =>
    have hbs := Item.par_items_lt hx
    have hcs := Item.par_items_lt hy
    have hds := Item.par_items_lt hz
    rw [Item.eq_par_iff hlist hbs hcs] at hxy
    rw [Item.eq_par_iff hlist hcs hds] at hyz
    exact (Item.eq_par_iff hlist hbs hds).2 (hxy.trans hlist hbs hcs hds hyz)

end Step

theorem Item.equivOn_sizeOf_lt (N : Nat) :
    EquivOn Item.eq (fun x : Item ε => sizeOf x < N) := by
  induction N with
  | zero => exact ⟨fun h => absurd h (Nat.not_lt_zero _), fun h => absurd h (Nat.not_lt_zero _)⟩
  | succ N ih => exact ⟨Item.eq_symm_succ ih, Item.eq_trans_succ ih⟩

theorem Item.equivOn : EquivOn Item.eq (fun _ : Item ε => True) where
  symm {x y} _ _ h :=
    (Item.equivOn_sizeOf_lt (sizeOf x + sizeOf y + 1)).symm (by omega) (by omega) h
  trans {x y z} _ _ _ h h' :=
    (Item.equivOn_sizeOf_lt (sizeOf x + sizeOf y + sizeOf z + 1)).trans (by omega) (by omega)
      (by omega) h h'

theorem equiv_symm {a b : Cause ε} (h : a.equiv b = true) : b.equiv a = true :=
  Item.equivOn.listEq.symm (fun _ _ => trivial) (fun _ _ => trivial) h

theorem equiv_trans {a b c : Cause ε} (h : a.equiv b = true) (h' : b.equiv c = true) :
    a.equiv c = true :=
  Item.equivOn.listEq.trans (fun _ _ => trivial) (fun _ _ => trivial) (fun _ _ => trivial) h h'

end Partial

variable [EquivBEq ε]

/-- Semantic equality of causes is an equivalence relation when equality of the errors is one. -/
theorem equiv_is_equivalence :
    Equivalence (fun a b : Cause ε => a.equiv b = true) ∧
      ∀ bs cs : List (List (Item ε)),
        Item.eq (.par bs) (.par cs) = true ↔ Item.SameBranches bs cs :=
  ⟨⟨equiv_refl, equiv_symm, equiv_trans⟩, fun _ _ =>
    Item.eq_par_iff Item.equivOn.listEq (fun _ _ _ _ => trivial) (fun _ _ _ _ => trivial)⟩

theorem equiv_is_equivalence_json :
    Equivalence (fun a b : Cause Json => a.equiv b = true) ∧
      ∀ bs cs : List (List (Item Json)),
        Item.eq (.par bs) (.par cs) = true ↔ Item.SameBranches bs cs :=
  equiv_is_equivalence

end Cause

end FiberEffects
