import FiberEffects.Time.TimerQueue
import Mathlib

namespace FiberEffects

namespace TimerHandle

def Before (a b : TimerHandle) : Prop :=
  a.deadline < b.deadline ∨ a.deadline = b.deadline ∧ a.id < b.id

theorem Before.ne {a b : TimerHandle} (h : a.Before b) : a ≠ b := by
  rintro rfl
  rcases h with h | ⟨-, h⟩ <;> exact Nat.lt_irrefl _ h

theorem Before.asymm {a b : TimerHandle} (h : a.Before b) : ¬ b.Before a := by
  rintro (h' | ⟨he', h'⟩) <;> rcases h with h | ⟨he, h⟩
  · exact Nat.lt_asymm h h'
  · exact Nat.lt_irrefl _ (he ▸ h')
  · exact Nat.lt_irrefl _ (he' ▸ h)
  · exact Nat.lt_asymm h h'

theorem Before.trans {a b c : TimerHandle} (hab : a.Before b) (hbc : b.Before c) : a.Before c := by
  rcases hab with h₁ | ⟨e₁, h₁⟩ <;> rcases hbc with h₂ | ⟨e₂, h₂⟩
  · exact .inl (Nat.lt_trans h₁ h₂)
  · exact .inl (e₂ ▸ h₁)
  · exact .inl (e₁ ▸ h₂)
  · exact .inr ⟨e₁.trans e₂, Nat.lt_trans h₁ h₂⟩

theorem Before.deadline_le {a b : TimerHandle} (h : a.Before b) : a.deadline ≤ b.deadline := by
  rcases h with h | ⟨he, -⟩
  · exact Nat.le_of_lt h
  · exact he ▸ Nat.le_refl _

theorem before_of_not_lt {a b : TimerHandle} (hlt : ¬ b.deadline < a.deadline) (hid : a.id < b.id) :
    a.Before b := by
  have hle : a.deadline.nanos ≤ b.deadline.nanos := Nat.le_of_not_lt hlt
  rcases Nat.lt_or_eq_of_le hle with h | h
  · exact .inl h
  · exact .inr ⟨Time.eq_of_nanos_eq h, hid⟩

end TimerHandle

section Prefix

variable {β : Type} {R : β → β → Prop} {P : β → Bool}

theorem takeWhile_eq_filter {l : List β} (hs : l.Pairwise R)
    (hdown : ∀ a b, R a b → P b = true → P a = true) : l.takeWhile P = l.filter P := by
  induction l with
  | nil => rfl
  | cons e rest ih =>
    rw [List.pairwise_cons] at hs
    by_cases he : P e = true
    · rw [List.takeWhile_cons_of_pos he, List.filter_cons_of_pos he, ih hs.2]
    · -- nothing after an element without `P` has it
      have hrest : rest.filter P = [] :=
        List.filter_eq_nil_iff.2 fun f hf hPf => he (hdown e f (hs.1 f hf) hPf)
      rw [List.takeWhile_cons_of_neg he, List.filter_cons_of_neg he, hrest]

theorem dropWhile_eq_filter {l : List β} (hs : l.Pairwise R)
    (hdown : ∀ a b, R a b → P b = true → P a = true) : l.dropWhile P = l.filter fun e => !P e := by
  induction l with
  | nil => rfl
  | cons e rest ih =>
    rw [List.pairwise_cons] at hs
    by_cases he : P e = true
    · rw [List.dropWhile_cons_of_pos he, ih hs.2, List.filter_cons_of_neg (by simp [he])]
    · have hrest : rest.filter (fun e => !P e) = rest :=
        List.filter_eq_self.2 fun f hf => by simpa using fun hPf => he (hdown e f (hs.1 f hf) hPf)
      rw [List.dropWhile_cons_of_neg he, List.filter_cons_of_pos (by simpa using he), hrest]

end Prefix

namespace TimerQueue

variable {α : Type} {q : TimerQueue α}

def dueEntries (q : TimerQueue α) (now : Time) : List (TimerHandle × α) :=
  q.entries.takeWhile (·.1.deadline ≤ now)

theorem takeDue_fst (now : Time) : (q.takeDue now).1 = (q.dueEntries now).map (·.2) := rfl

theorem entries_takeDue (now : Time) :
    (q.takeDue now).2.entries = q.entries.dropWhile (·.1.deadline ≤ now) := rfl

theorem nextId_takeDue (now : Time) : (q.takeDue now).2.nextId = q.nextId := rfl

theorem entries_cancel (h : TimerHandle) : (q.cancel h).2.entries = q.entries.filter (·.1 != h) := by
  unfold cancel
  split
  · rfl
  · -- nothing is under the handle, so nothing is dropped
    next hany =>
    refine (List.filter_eq_self.2 fun e he => ?_).symm
    simpa using List.any_eq_false.1 (Bool.eq_false_iff.2 hany) e he

theorem nextId_cancel (h : TimerHandle) : (q.cancel h).2.nextId = q.nextId := by
  unfold cancel
  split <;> rfl

theorem perm_insertEntry (h : TimerHandle) (x : α) :
    ∀ l : List (TimerHandle × α), (insertEntry h x l).Perm ((h, x) :: l)
  | [] => List.Perm.refl _
  | (h', y) :: rest => by
    unfold insertEntry
    split
    · exact List.Perm.refl _
    · exact ((perm_insertEntry h x rest).cons _).trans (List.Perm.swap _ _ _)

/-- Inserting a registration numbered after every entry keeps the entries sorted. -/
theorem sorted_insertEntry (h : TimerHandle) (x : α) :
    ∀ {l : List (TimerHandle × α)}, l.Pairwise (fun e f => e.1.Before f.1) → (∀ e ∈ l, e.1.id < h.id) →
      (insertEntry h x l).Pairwise fun e f => e.1.Before f.1
  | [], _, _ => List.pairwise_singleton _ _
  | (h', y) :: rest, hs, hfresh => by
    rw [List.pairwise_cons] at hs
    unfold insertEntry
    split
    · next hlt =>
      -- the new registration goes first: it is due strictly before the head
      refine List.pairwise_cons.2 ⟨fun f hf => ?_, List.pairwise_cons.2 hs⟩
      rcases List.mem_cons.1 hf with rfl | hf
      · exact .inl hlt
      · exact TimerHandle.Before.trans (.inl hlt) (hs.1 f hf)
    · next hlt =>
      have hhead : h'.Before h := TimerHandle.before_of_not_lt hlt (hfresh _ List.mem_cons_self)
      refine List.pairwise_cons.2 ⟨fun f hf => ?_,
        sorted_insertEntry h x hs.2 fun e he => hfresh e (List.mem_cons_of_mem _ he)⟩
      rcases List.mem_cons.1 ((perm_insertEntry h x rest).subset hf) with rfl | hf
      · exact hhead
      · exact hs.1 f hf

/-- A queue keeps its entries strictly sorted by deadline, then number, and every number in it
was handed out already. -/
structure Wf (q : TimerQueue α) : Prop where
  sorted : q.entries.Pairwise fun e f => e.1.Before f.1
  fresh : ∀ e ∈ q.entries, e.1.id < q.nextId

theorem wf_empty : ({} : TimerQueue α).Wf :=
  ⟨List.Pairwise.nil, fun _ he => absurd he List.not_mem_nil⟩

theorem Wf.register (hq : q.Wf) (deadline : Time) (x : α) : (q.register deadline x).2.Wf := by
  refine ⟨sorted_insertEntry _ x hq.sorted hq.fresh, fun e he => ?_⟩
  rcases List.mem_cons.1 ((perm_insertEntry _ x _).subset he) with rfl | he
  · exact Nat.lt_succ_self _
  · exact Nat.lt_succ_of_lt (hq.fresh e he)

theorem Wf.cancel (hq : q.Wf) (h : TimerHandle) : (q.cancel h).2.Wf := by
  refine ⟨?_, fun e he => ?_⟩
  · rw [entries_cancel]
    exact hq.sorted.filter _
  · rw [entries_cancel] at he
    rw [nextId_cancel]
    exact hq.fresh e (List.mem_of_mem_filter he)

theorem Wf.takeDue (hq : q.Wf) (now : Time) : (q.takeDue now).2.Wf := by
  have hsuffix : (q.entries.dropWhile (·.1.deadline ≤ now)).IsSuffix q.entries :=
    List.dropWhile_suffix _
  refine ⟨?_, fun e he => ?_⟩
  · exact hq.sorted.sublist hsuffix.sublist
  · exact hq.fresh e (hsuffix.subset he)

theorem due_of_before (now : Time) (e f : TimerHandle × α) (hef : e.1.Before f.1)
    (hf : decide (f.1.deadline ≤ now) = true) : decide (e.1.deadline ≤ now) = true := by
  simp only [decide_eq_true_eq] at hf ⊢
  exact Nat.le_trans hef.deadline_le hf

theorem Wf.dueEntries_eq (hq : q.Wf) (now : Time) :
    q.dueEntries now = q.entries.filter (·.1.deadline ≤ now) :=
  takeWhile_eq_filter hq.sorted (due_of_before now)

theorem Wf.entries_takeDue (hq : q.Wf) (now : Time) :
    (q.takeDue now).2.entries = q.entries.filter fun e => !decide (e.1.deadline ≤ now) :=
  dropWhile_eq_filter hq.sorted (due_of_before now)

theorem Wf.handles_nodup (hq : q.Wf) : (q.entries.map (·.1)).Nodup :=
  List.pairwise_map.2 (hq.sorted.imp TimerHandle.Before.ne)

end TimerQueue

/-- What a timer queue holds, as a plain list of registrations in the order they were made, with
the number the next one gets. -/
structure Registrations (α : Type) where
  entries : List (TimerHandle × α) := []
  nextId : Nat := 0

/-- A call on a timer queue: a callback registered for a deadline, a registration cancelled, or
the registrations due at an instant processed. -/
inductive TimerCall (α : Type) where
  | register (deadline : Time) (x : α)
  | cancel (h : TimerHandle)
  | process (now : Time)

/-- What a call on a timer queue answers: the new registration's handle, whether a cancel found
its registration, or the registrations fired, with their handles, in firing order. -/
inductive TimerReply (α : Type) where
  | registered (h : TimerHandle)
  | cancelled (was : Bool)
  | fired (due : List (TimerHandle × α))

def TimerReply.firedHandles {α : Type} : TimerReply α → List TimerHandle
  | .fired due => due.map (·.1)
  | _ => []

namespace Registrations

variable {α : Type}

def keyLe (e f : TimerHandle × α) : Bool :=
  decide (e.1.deadline.nanos < f.1.deadline.nanos) ||
    decide (e.1.deadline.nanos = f.1.deadline.nanos) && decide (e.1.id ≤ f.1.id)

def register (p : Registrations α) (deadline : Time) (x : α) : TimerHandle × Registrations α :=
  (⟨deadline, p.nextId⟩, { entries := p.entries ++ [(⟨deadline, p.nextId⟩, x)], nextId := p.nextId + 1 })

def cancel (p : Registrations α) (h : TimerHandle) : Bool × Registrations α :=
  (p.entries.any (·.1 == h), { p with entries := p.entries.filter (·.1 != h) })

def takeDue (p : Registrations α) (now : Time) : List (TimerHandle × α) × Registrations α :=
  ((p.entries.filter (·.1.deadline ≤ now)).mergeSort keyLe,
    { p with entries := p.entries.filter fun e => !decide (e.1.deadline ≤ now) })

def earliest (p : Registrations α) : Option Nat := (p.entries.map (·.1.deadline.nanos)).min?

def answer (p : Registrations α) : TimerCall α → TimerReply α × Registrations α
  | .register d x => (.registered (p.register d x).1, (p.register d x).2)
  | .cancel h => (.cancelled (p.cancel h).1, (p.cancel h).2)
  | .process now => (.fired (p.takeDue now).1, (p.takeDue now).2)

def run (p : Registrations α) : List (TimerCall α) → List (TimerReply α) × Registrations α
  | [] => ([], p)
  | c :: cs => ((p.answer c).1 :: ((p.answer c).2.run cs).1, ((p.answer c).2.run cs).2)

theorem keyLe_trans (e f g : TimerHandle × α) (hef : keyLe e f = true) (hfg : keyLe f g = true) :
    keyLe e g = true := by
  simp only [keyLe, Bool.or_eq_true, Bool.and_eq_true, decide_eq_true_eq] at hef hfg ⊢
  omega

theorem keyLe_total (e f : TimerHandle × α) : (keyLe e f || keyLe f e) = true := by
  simp only [keyLe, Bool.or_eq_true, Bool.and_eq_true, decide_eq_true_eq]
  omega

/-- Between distinct handles, coming no later is firing before. -/
theorem before_of_keyLe {e f : TimerHandle × α} (hle : keyLe e f = true) (hne : e.1 ≠ f.1) :
    e.1.Before f.1 := by
  simp only [keyLe, Bool.or_eq_true, Bool.and_eq_true, decide_eq_true_eq] at hle
  rcases hle with hlt | ⟨heq, hid⟩
  · exact .inl hlt
  · have hd : e.1.deadline = f.1.deadline := Time.eq_of_nanos_eq heq
    refine .inr ⟨hd, Nat.lt_of_le_of_ne hid fun hi => hne ?_⟩
    obtain ⟨⟨_, _⟩, _⟩ := e
    obtain ⟨⟨_, _⟩, _⟩ := f
    simp_all

/-- The registrations of a list carry distinct handles, under numbers already handed out. -/
structure Fresh (p : Registrations α) : Prop where
  nodup : (p.entries.map (·.1)).Nodup
  below : ∀ e ∈ p.entries, e.1.id < p.nextId

def Over (p : Registrations α) (h : TimerHandle) : Prop :=
  h.id < p.nextId ∧ ∀ e ∈ p.entries, e.1 ≠ h

section Over

variable {p p' : Registrations α} {h : TimerHandle}

theorem fresh_empty : ({} : Registrations α).Fresh :=
  ⟨List.nodup_nil, fun _ he => absurd he List.not_mem_nil⟩

theorem Fresh.of_sublist (hp : p.Fresh) (hs : p'.entries.Sublist p.entries) (hn : p'.nextId = p.nextId) :
    p'.Fresh :=
  ⟨hp.nodup.sublist (hs.map _), fun e he => hn ▸ hp.below e (hs.subset he)⟩

theorem Over.of_subset (ho : p.Over h) (hs : p'.entries ⊆ p.entries) (hn : p'.nextId = p.nextId) :
    p'.Over h :=
  ⟨hn ▸ ho.1, fun e he => ho.2 e (hs he)⟩

theorem Fresh.answer (hp : p.Fresh) : ∀ c : TimerCall α, (p.answer c).2.Fresh
  | .register d x => by
    -- the new registration's number is above every number pending
    refine ⟨?_, fun e he => ?_⟩
    · show ((p.entries ++ [((⟨d, p.nextId⟩ : TimerHandle), x)]).map (·.1)).Nodup
      rw [List.map_append, List.map_singleton, List.nodup_append]
      refine ⟨hp.nodup, List.nodup_singleton _, fun a ha b hb hab => ?_⟩
      obtain ⟨e, he, rfl⟩ := List.mem_map.1 ha
      rw [List.mem_singleton.1 hb] at hab
      have hid : e.1.id = p.nextId := congrArg TimerHandle.id hab
      have hlt := hp.below e he
      omega
    · rcases List.mem_append.1 he with he | he
      · exact Nat.lt_succ_of_lt (hp.below e he)
      · rw [List.mem_singleton.1 he]
        exact Nat.lt_succ_self _
  | .cancel _ => hp.of_sublist List.filter_sublist rfl
  | .process _ => hp.of_sublist List.filter_sublist rfl

theorem Over.answer (ho : p.Over h) :
    ∀ c : TimerCall α, (p.answer c).2.Over h ∧ h ∉ (p.answer c).1.firedHandles
  | .register d x => by
    refine ⟨⟨Nat.lt_succ_of_lt ho.1, fun e he => ?_⟩, List.not_mem_nil⟩
    rcases List.mem_append.1 he with he | he
    · exact ho.2 e he
    · -- the new registration's number was never handed out before
      rw [List.mem_singleton.1 he]
      exact fun heq => Nat.lt_irrefl _ (heq ▸ ho.1)
  | .cancel _ => ⟨ho.of_subset (fun _ he => List.mem_of_mem_filter he) rfl, List.not_mem_nil⟩
  | .process now => by
    refine ⟨ho.of_subset (fun _ he => List.mem_of_mem_filter he) rfl, fun hh => ?_⟩
    obtain ⟨e, he, rfl⟩ := List.mem_map.1 hh
    exact ho.2 e (List.mem_of_mem_filter ((List.mergeSort_perm _ _).subset he)) rfl

/-- A registration that is over fires in no reply of any run. -/
theorem Over.run (ho : p.Over h) (calls : List (TimerCall α)) :
    h ∉ (p.run calls).1.flatMap TimerReply.firedHandles := by
  induction calls generalizing p with
  | nil => exact List.not_mem_nil
  | cons c cs ih =>
    obtain ⟨ho', hc⟩ := ho.answer c
    simp only [run, List.flatMap_cons, List.mem_append, not_or]
    exact ⟨hc, ih ho'⟩

/-- A registration that fires is over afterwards. -/
theorem Fresh.over_of_fired (hp : p.Fresh) :
    ∀ {c : TimerCall α}, h ∈ (p.answer c).1.firedHandles → (p.answer c).2.Over h
  | .register _ _, hh => absurd hh List.not_mem_nil
  | .cancel _, hh => absurd hh List.not_mem_nil
  | .process now, hh => by
    obtain ⟨e, he, rfl⟩ := List.mem_map.1 hh
    have hdue := List.mem_filter.1 ((List.mergeSort_perm _ _).subset he)
    -- an entry under the same handle has the same deadline, so it was due and taken too
    refine ⟨hp.below e hdue.1, fun f hf heq => ?_⟩
    have hlater := (List.mem_filter.1 hf).2
    rw [heq] at hlater
    simp only [hdue.2, Bool.not_true, Bool.false_eq_true] at hlater

theorem Fresh.fired_nodup (hp : p.Fresh) : ∀ c : TimerCall α, (p.answer c).1.firedHandles.Nodup
  | .register _ _ => List.nodup_nil
  | .cancel _ => List.nodup_nil
  | .process _ =>
    ((List.mergeSort_perm _ _).map _).nodup_iff.2 (hp.nodup.sublist (List.filter_sublist.map _))

/-- Along every run from a fresh list, each registration fires at most once. -/
theorem Fresh.run_fired_nodup (hp : p.Fresh) (calls : List (TimerCall α)) :
    ((p.run calls).1.flatMap TimerReply.firedHandles).Nodup := by
  induction calls generalizing p with
  | nil => exact List.nodup_nil
  | cons c cs ih =>
    simp only [run, List.flatMap_cons]
    -- what the first call fires is over for the rest of the run
    refine List.nodup_append.2 ⟨hp.fired_nodup c, ih (hp.answer c), fun a ha b hb hab => ?_⟩
    exact (hp.over_of_fired ha).run cs (hab ▸ hb)

theorem Fresh.cancel_over (hp : p.Fresh) (hc : (p.cancel h).1 = true) : (p.cancel h).2.Over h := by
  obtain ⟨e, he, heq⟩ := List.any_eq_true.1 hc
  have heh : e.1 = h := beq_iff_eq.1 heq
  refine ⟨heh ▸ hp.below e he, fun f hf hfh => ?_⟩
  have hne := (List.mem_filter.1 hf).2
  simp [hfh] at hne

end Over

end Registrations

namespace TimerQueue

variable {α : Type}

def answer (q : TimerQueue α) : TimerCall α → TimerReply α × TimerQueue α
  | .register d x => (.registered (q.register d x).1, (q.register d x).2)
  | .cancel h => (.cancelled (q.cancel h).1, (q.cancel h).2)
  | .process now => (.fired (q.dueEntries now), (q.takeDue now).2)

def run (q : TimerQueue α) : List (TimerCall α) → List (TimerReply α) × TimerQueue α
  | [] => ([], q)
  | c :: cs => ((q.answer c).1 :: ((q.answer c).2.run cs).1, ((q.answer c).2.run cs).2)

/-- A queue holds a list of registrations: it is well formed, has the same entries in some order,
and gives the same next number. -/
structure Holds (q : TimerQueue α) (p : Registrations α) : Prop where
  wf : q.Wf
  perm : q.entries.Perm p.entries
  next : q.nextId = p.nextId

section Calls

variable {q : TimerQueue α} {p : Registrations α}

theorem register_holds (h : q.Holds p) (deadline : Time) (x : α) :
    (q.register deadline x).1 = (p.register deadline x).1 ∧
      (q.register deadline x).2.Holds (p.register deadline x).2 := by
  refine ⟨by rw [register, Registrations.register, h.next], h.wf.register deadline x, ?_, ?_⟩
  · show (insertEntry ⟨deadline, q.nextId⟩ x q.entries).Perm (p.entries ++ [(⟨deadline, p.nextId⟩, x)])
    rw [h.next]
    exact (perm_insertEntry _ x _).trans ((h.perm.cons _).trans (List.perm_append_singleton _ _).symm)
  · show q.nextId + 1 = p.nextId + 1
    rw [h.next]

theorem cancel_holds (h : q.Holds p) (th : TimerHandle) :
    (q.cancel th).1 = (p.cancel th).1 ∧ (q.cancel th).2.Holds (p.cancel th).2 := by
  refine ⟨?_, h.wf.cancel th, ?_, ?_⟩
  · rw [Registrations.cancel, ← h.perm.any_eq]
    unfold cancel
    split
    · next hany => exact hany.symm
    · next hany => exact (Bool.eq_false_iff.2 hany).symm
  · rw [entries_cancel]
    exact h.perm.filter _
  · rw [nextId_cancel, h.next]
    rfl

/-- The registrations due on a queue are those of the list, sorted by deadline and number. -/
theorem dueEntries_eq_mergeSort (h : q.Holds p) (now : Time) :
    q.dueEntries now = (p.takeDue now).1 := by
  rw [h.wf.dueEntries_eq]
  have hperm : (q.entries.filter (·.1.deadline ≤ now)).Perm (p.takeDue now).1 :=
    (h.perm.filter _).trans (List.mergeSort_perm _ _).symm
  -- the sorted list has the distinct handles of the queue's entries
  have hnodup : ((p.takeDue now).1.map (·.1)).Nodup :=
    (hperm.map _).nodup_iff.1 (h.wf.handles_nodup.sublist (List.filter_sublist.map _))
  have hsorted : (p.takeDue now).1.Pairwise fun e f => e.1.Before f.1 :=
    ((List.pairwise_mergeSort Registrations.keyLe_trans Registrations.keyLe_total _).and
      (List.pairwise_map.1 hnodup)).imp fun ⟨hle, hne⟩ => Registrations.before_of_keyLe hle hne
  exact List.Perm.eq_of_pairwise (fun e f _ _ hef hfe => absurd hfe hef.asymm)
    (h.wf.sorted.filter _) hsorted hperm

theorem takeDue_holds (h : q.Holds p) (now : Time) :
    q.dueEntries now = (p.takeDue now).1 ∧ (q.takeDue now).2.Holds (p.takeDue now).2 := by
  refine ⟨dueEntries_eq_mergeSort h now, h.wf.takeDue now, ?_, h.next⟩
  rw [h.wf.entries_takeDue]
  exact h.perm.filter _

theorem answer_holds (h : q.Holds p) :
    ∀ c : TimerCall α, (q.answer c).1 = (p.answer c).1 ∧ (q.answer c).2.Holds (p.answer c).2
  | .register d x => by
    obtain ⟨hr, hh⟩ := register_holds h d x
    exact ⟨by simp only [answer, Registrations.answer, hr], hh⟩
  | .cancel th => by
    obtain ⟨hr, hh⟩ := cancel_holds h th
    exact ⟨by simp only [answer, Registrations.answer, hr], hh⟩
  | .process now => by
    obtain ⟨hr, hh⟩ := takeDue_holds h now
    exact ⟨by simp only [answer, Registrations.answer, hr], hh⟩

/-- Along any calls, a queue holding a list answers as it does and goes on holding it. -/
theorem run_holds (calls : List (TimerCall α)) :
    ∀ {q : TimerQueue α} {p : Registrations α}, q.Holds p →
      (q.run calls).1 = (p.run calls).1 ∧ (q.run calls).2.Holds (p.run calls).2 := by
  induction calls with
  | nil => exact fun h => ⟨rfl, h⟩
  | cons c cs ih =>
    intro q p h
    -- the first call keeps the relation, and the rest of the run starts from it
    obtain ⟨hr, hh⟩ := answer_holds h c
    obtain ⟨hrs, hh'⟩ := ih hh
    exact ⟨by simp only [run, Registrations.run, hr, hrs], hh'⟩

end Calls

section Observed

variable {q : TimerQueue α} {p : Registrations α}

theorem Holds.earliest (h : q.Holds p) : q.nextDeadline.map Time.nanos = p.earliest := by
  rw [nextDeadline, Registrations.earliest]
  cases hent : q.entries with
  | nil =>
    have hp : p.entries = [] := (List.Perm.nil_eq (hent ▸ h.perm)).symm
    simp [hp]
  | cons e rest =>
    -- the first entry is due no later than any entry pending
    have hs := h.wf.sorted
    rw [hent, List.pairwise_cons] at hs
    symm
    refine List.min?_eq_some_iff.2 ⟨?_, fun n hn => ?_⟩
    · exact List.mem_map_of_mem (h.perm.subset (hent ▸ List.mem_cons_self))
    · obtain ⟨f, hf, rfl⟩ := List.mem_map.1 hn
      rcases List.mem_cons.1 (hent ▸ h.perm.symm.subset hf) with rfl | hf
      · exact Nat.le_refl _
      · exact (hs.1 f hf).deadline_le

theorem Holds.size (h : q.Holds p) : q.size = p.entries.length := h.perm.length_eq

end Observed

/-- What a queue and the list of its registrations agree on after the same calls: every answer,
the earliest deadline and the number pending; and the queue stays well formed. -/
structure Agrees (r : List (TimerReply α) × TimerQueue α) (s : List (TimerReply α) × Registrations α) :
    Prop where
  replies : r.1 = s.1
  earliest : r.2.nextDeadline.map Time.nanos = s.2.earliest
  size : r.2.size = s.2.entries.length
  wf : r.2.Wf

theorem empty_holds : ({} : TimerQueue α).Holds {} := ⟨wf_empty, List.Perm.refl _, rfl⟩

theorem run_refines_registrations (calls : List (TimerCall α)) :
    Agrees (({} : TimerQueue α).run calls) (({} : Registrations α).run calls) := by
  obtain ⟨hreplies, hholds⟩ := run_holds calls empty_holds
  exact ⟨hreplies, hholds.earliest, hholds.size, hholds.wf⟩

theorem Holds.fresh {q : TimerQueue α} {p : Registrations α} (h : q.Holds p) : p.Fresh :=
  ⟨(h.perm.map _).nodup_iff.1 h.wf.handles_nodup,
    fun e he => h.next ▸ h.wf.fresh e (h.perm.symm.subset he)⟩

theorem run_fires_once (calls : List (TimerCall α)) :
    ((({} : TimerQueue α).run calls).1.flatMap TimerReply.firedHandles).Nodup := by
  rw [(run_refines_registrations calls).replies]
  exact Registrations.fresh_empty.run_fired_nodup calls

theorem cancelled_never_fires (pre post : List (TimerCall α)) (th : TimerHandle)
    (hc : ((({} : TimerQueue α).run pre).2.cancel th).1 = true) :
    th ∉ (((({} : TimerQueue α).run pre).2.cancel th).2.run post).1.flatMap TimerReply.firedHandles := by
  have hpre := (run_holds pre empty_holds).2
  obtain ⟨hreply, hcancel⟩ := cancel_holds hpre th
  rw [(run_holds post hcancel).1]
  rw [hreply] at hc
  exact (hpre.fresh.cancel_over hc).run post

end TimerQueue

end FiberEffects
