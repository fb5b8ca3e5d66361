import FiberEffects.Proofs.TimelineEntries

namespace FiberEffects

/-- What is pending on a timeline, as a plain list in the order it was added, with the number the
next entry gets. -/
structure Pending (α : Type) where
  entries : List (TimelineKey × α) := []
  next : Nat := 0

/-- A call on a timeline. -/
inductive TimelineCall (α : Type) where
  | add (arrival : Time) (task : α)
  | remove (key : TimelineKey)
  | takeReady (now : Time)

/-- What a call on a timeline answers. -/
inductive TimelineReply (α : Type) where
  | added (key : TimelineKey) (nearest : Bool)
  | removed (task : Option α)
  | ready (tasks : List α)

namespace Pending

variable {α : Type}

def keyLe (e f : TimelineKey × α) : Bool :=
  decide (e.1.arrival.nanos < f.1.arrival.nanos) ||
    decide (e.1.arrival.nanos = f.1.arrival.nanos) && decide (e.1.seq ≤ f.1.seq)

def add (p : Pending α) (a : Time) (x : α) : (TimelineKey × Bool) × Pending α :=
  ((⟨a, p.next⟩, p.entries.all fun e => decide (a < e.1.arrival)),
    { entries := p.entries ++ [(⟨a, p.next⟩, x)], next := p.next + 1 })

def remove (p : Pending α) (k : TimelineKey) : Option α × Pending α :=
  ((p.entries.find? (·.1 == k)).map (·.2), { p with entries := p.entries.filter (·.1 != k) })

def takeReady (p : Pending α) (now : Time) : List α × Pending α :=
  (((p.entries.filter (·.1.arrival ≤ now)).mergeSort keyLe).map (·.2),
    { p with entries := p.entries.filter fun e => !decide (e.1.arrival ≤ now) })

def earliest (p : Pending α) : Option Nat := (p.entries.map (·.1.arrival.nanos)).min?

def answer (p : Pending α) : TimelineCall α → TimelineReply α × Pending α
  | .add a x => (.added (p.add a x).1.1 (p.add a x).1.2, (p.add a x).2)
  | .remove k => (.removed (p.remove k).1, (p.remove k).2)
  | .takeReady now => (.ready (p.takeReady now).1, (p.takeReady now).2)

def run (p : Pending α) : List (TimelineCall α) → List (TimelineReply α) × Pending α
  | [] => ([], p)
  | c :: cs => ((p.answer c).1 :: ((p.answer c).2.run cs).1, ((p.answer c).2.run cs).2)

theorem keyLe_trans (e f g : TimelineKey × α) (hef : keyLe e f = true) (hfg : keyLe f g = true) :
    keyLe e g = true := by
  simp only [keyLe, Bool.or_eq_true, Bool.and_eq_true, decide_eq_true_eq] at hef hfg ⊢
  omega

theorem keyLe_total (e f : TimelineKey × α) : (keyLe e f || keyLe f e) = true := by
  simp only [keyLe, Bool.or_eq_true, Bool.and_eq_true, decide_eq_true_eq]
  omega

/-- Between distinct keys, coming no later is coming earlier. -/
theorem earlier_of_keyLe {e f : TimelineKey × α} (hle : keyLe e f = true) (hne : e.1 ≠ f.1) :
    Timeline.Earlier e.1 f.1 := by
  simp only [keyLe, Bool.or_eq_true, Bool.and_eq_true, decide_eq_true_eq] at hle
  rcases hle with hlt | ⟨heq, hseq⟩
  · exact .inl hlt
  · have harr : e.1.arrival = f.1.arrival := Time.eq_of_nanos_eq heq
    refine .inr ⟨harr, Nat.lt_of_le_of_ne hseq fun hs => hne ?_⟩
    obtain ⟨⟨_, _⟩, _⟩ := e
    obtain ⟨⟨_, _⟩, _⟩ := f
    simp_all

end Pending

namespace Timeline

variable {α : Type}

def answer (t : Timeline α) : TimelineCall α → TimelineReply α × Timeline α
  | .add a x => (.added (t.add a x).1.1 (t.add a x).1.2, (t.add a x).2)
  | .remove k => (.removed (t.remove k).1, (t.remove k).2)
  | .takeReady now => (.ready (t.takeReady now).1, (t.takeReady now).2)

def run (t : Timeline α) : List (TimelineCall α) → List (TimelineReply α) × Timeline α
  | [] => ([], t)
  | c :: cs => ((t.answer c).1 :: ((t.answer c).2.run cs).1, ((t.answer c).2.run cs).2)

/-- A timeline holds what is pending: the same entries in some order, and the same next number. -/
structure Holds (t : Timeline α) (p : Pending α) : Prop where
  perm : t.entries.Perm p.entries
  next : t.nextSeq = p.next

section Keys

variable (t : Timeline α)

theorem keys_nodup : (t.entries.map (·.1)).Nodup :=
  List.pairwise_map.2 (t.entries_sorted.imp Earlier.ne)

theorem arrival_le_of_mem_entries {e f : TimelineKey × α} (hent : t.entries = e :: rest)
    (hf : f ∈ t.entries) : e.1.arrival ≤ f.1.arrival := by
  have hs := t.entries_sorted
  rw [hent] at hs hf
  rcases List.mem_cons.1 hf with rfl | hf
  · exact Nat.le_refl _
  · rcases (List.pairwise_cons.1 hs).1 f hf with h | ⟨h, -⟩
    · exact Nat.le_of_lt h
    · exact h ▸ Nat.le_refl _

/-- Among entries with distinct keys, reordering does not change which one is under a key. -/
theorem find?_key_eq_of_perm {l₁ l₂ : List (TimelineKey × α)} (hp : l₁.Perm l₂)
    (hnodup : (l₁.map (·.1)).Nodup) (k : TimelineKey) :
    l₁.find? (·.1 == k) = l₂.find? (·.1 == k) := by
  cases h₁ : l₁.find? (·.1 == k) with
  | none =>
    refine (List.find?_eq_none.2 fun e he => ?_).symm
    exact List.find?_eq_none.1 h₁ e (hp.symm.subset he)
  | some e =>
    have hek := List.find?_some h₁
    obtain ⟨f, hf⟩ : ∃ f, l₂.find? (·.1 == k) = some f :=
      Option.isSome_iff_exists.1 (List.find?_isSome.2
        ⟨e, hp.subset (List.mem_of_find?_eq_some h₁), hek⟩)
    rw [hf]
    -- both entries lie in the first list under the key, whose keys are distinct
    have he : e.1 = k := by simpa using hek
    have hfk : f.1 = k := by simpa using List.find?_some hf
    exact congrArg some (List.inj_on_of_nodup_map hnodup (List.mem_of_find?_eq_some h₁)
      (hp.symm.subset (List.mem_of_find?_eq_some hf)) (he.trans hfk.symm))

end Keys

section Calls

variable {t : Timeline α} {p : Pending α}

theorem perm_insertEntry (k : TimelineKey) (x : α) :
    ∀ l : List (TimelineKey × α), (insertEntry k x l).Perm ((k, x) :: l)
  | [] => List.Perm.refl _
  | (k', y) :: rest => by
    unfold insertEntry
    split
    · exact List.Perm.refl _
    · exact ((perm_insertEntry k x rest).cons _).trans (List.Perm.swap _ _ _)

/-- The new entry is the nearest exactly when every waiting entry arrives strictly later. -/
theorem nearest_eq_all (t : Timeline α) (a : Time) (x : α) :
    (t.add a x).1.2 = t.entries.all fun e => decide (a < e.1.arrival) := by
  rw [add_fst]
  dsimp only
  rw [nextArrival_eq_head]
  cases hent : t.entries with
  | nil => rfl
  | cons e rest =>
    dsimp only [List.head?_cons, Option.map_some]
    by_cases hlt : a < e.1.arrival
    · -- the first entry arrives earliest, so every entry arrives after the new one
      refine (decide_eq_true hlt).trans (List.all_eq_true.2 fun f hf => ?_).symm
      exact decide_eq_true (Nat.lt_of_lt_of_le hlt
        (t.arrival_le_of_mem_entries hent (hent ▸ hf)))
    · rw [decide_eq_false hlt, List.all_cons, decide_eq_false hlt, Bool.false_and]

theorem add_holds (h : t.Holds p) (a : Time) (x : α) :
    (t.add a x).1 = (p.add a x).1 ∧ (t.add a x).2.Holds (p.add a x).2 := by
  refine ⟨?_, ⟨?_, ?_⟩⟩
  · rw [Prod.ext_iff]
    refine ⟨by rw [add_fst, h.next]; rfl, ?_⟩
    rw [nearest_eq_all, h.perm.all_eq]
    rfl
  · rw [entries_add, h.next]
    exact (perm_insertEntry _ x _).trans ((h.perm.cons _).trans (List.perm_append_singleton _ _).symm)
  · show t.nextSeq + 1 = p.next + 1
    rw [h.next]

theorem remove_nextSeq (t : Timeline α) (k : TimelineKey) : (t.remove k).2.nextSeq = t.nextSeq := by
  unfold remove
  split <;> rfl

theorem remove_holds (h : t.Holds p) (k : TimelineKey) :
    (t.remove k).1 = (p.remove k).1 ∧ (t.remove k).2.Holds (p.remove k).2 := by
  refine ⟨?_, ⟨?_, ?_⟩⟩
  · rw [remove_fst, find?_key_eq_of_perm h.perm t.keys_nodup]
    rfl
  · rw [entries_remove]
    exact h.perm.filter _
  · rw [remove_nextSeq, h.next]
    rfl

/-- The arrived entries of a timeline are those of the list, sorted by arrival and number. -/
theorem ready_eq_mergeSort (h : t.Holds p) (now : Time) :
    t.entries.filter (·.1.arrival ≤ now) =
      (p.entries.filter (·.1.arrival ≤ now)).mergeSort Pending.keyLe := by
  have hperm : (t.entries.filter (·.1.arrival ≤ now)).Perm
      ((p.entries.filter (·.1.arrival ≤ now)).mergeSort Pending.keyLe) :=
    (h.perm.filter _).trans (List.mergeSort_perm _ _).symm
  -- the sorted list has the distinct keys of the timeline's entries
  have hnodup : (((p.entries.filter (·.1.arrival ≤ now)).mergeSort Pending.keyLe).map (·.1)).Nodup :=
    (hperm.map _).nodup_iff.1 ((t.keys_nodup).sublist (List.filter_sublist.map _))
  have hsorted : ((p.entries.filter (·.1.arrival ≤ now)).mergeSort Pending.keyLe).Pairwise
      fun e f => Earlier e.1 f.1 :=
    ((List.pairwise_mergeSort Pending.keyLe_trans Pending.keyLe_total _).and
      (List.pairwise_map.1 hnodup)).imp fun ⟨hle, hne⟩ => Pending.earlier_of_keyLe hle hne
  exact List.Perm.eq_of_pairwise (fun e f _ _ hef hfe => absurd hfe hef.asymm)
    (t.entries_sorted.filter _) hsorted hperm

theorem takeReady_holds (h : t.Holds p) (now : Time) :
    (t.takeReady now).1 = (p.takeReady now).1 ∧ (t.takeReady now).2.Holds (p.takeReady now).2 := by
  refine ⟨?_, ⟨?_, h.next⟩⟩
  · rw [takeReady_fst, ready_eq_mergeSort h]
    rfl
  · rw [entries_takeReady]
    exact h.perm.filter _

theorem answer_holds (h : t.Holds p) :
    ∀ c : TimelineCall α, (t.answer c).1 = (p.answer c).1 ∧ (t.answer c).2.Holds (p.answer c).2
  | .add a x => by
    obtain ⟨hr, hh⟩ := add_holds h a x
    exact ⟨by simp only [answer, Pending.answer, hr], hh⟩
  | .remove k => by
    obtain ⟨hr, hh⟩ := remove_holds h k
    exact ⟨by simp only [answer, Pending.answer, hr], hh⟩
  | .takeReady now => by
    obtain ⟨hr, hh⟩ := takeReady_holds h now
    exact ⟨by simp only [answer, Pending.answer, hr], hh⟩

/-- Along any calls, a timeline holding a list answers as it does and goes on holding it. -/
theorem run_holds (calls : List (TimelineCall α)) :
    ∀ {t : Timeline α} {p : Pending α}, t.Holds p →
      (t.run calls).1 = (p.run calls).1 ∧ (t.run calls).2.Holds (p.run calls).2 := by
  induction calls with
  | nil => exact fun h => ⟨rfl, h⟩
  | cons c cs ih =>
    intro t p h
    -- the first call keeps the relation, and the rest of the run starts from it
    obtain ⟨hr, hh⟩ := answer_holds h c
    obtain ⟨hrs, hh'⟩ := ih hh
    exact ⟨by simp only [run, Pending.run, hr, hrs], hh'⟩

end Calls

section Observed

variable {t : Timeline α} {p : Pending α}

theorem Holds.earliest (h : t.Holds p) : t.nextArrival.map Time.nanos = p.earliest := by
  rw [nextArrival_eq_head, Pending.earliest]
  cases hent : t.entries with
  | nil =>
    have hp : p.entries = [] := (List.Perm.nil_eq (hent ▸ h.perm)).symm
    simp [hp]
  | cons e rest =>
    -- the first entry arrives no later than any entry pending
    symm
    refine List.min?_eq_some_iff.2 ⟨?_, fun n hn => ?_⟩
    · exact List.mem_map_of_mem (h.perm.subset (hent ▸ List.mem_cons_self))
    · obtain ⟨f, hf, rfl⟩ := List.mem_map.1 hn
      exact t.arrival_le_of_mem_entries hent (h.perm.symm.subset hf)

theorem Holds.size (h : t.Holds p) : t.size = p.entries.length := by
  rw [size_eq_length, h.perm.length_eq]

theorem Holds.isEmpty (h : t.Holds p) : t.isEmpty = p.entries.isEmpty := by
  rw [isEmpty_eq, h.perm.isEmpty_eq]

theorem count_eq_sum (bs : List (Time × List (Nat × α))) : count bs = (bs.map (·.2.length)).sum := by
  induction bs with
  | nil => rfl
  | cons b rest ih => simp [count, ih]

end Observed

/-- What a timeline and the list of what is pending agree on after the same calls: every answer,
the earliest arrival, the size and emptiness; and the timeline keeps no empty bucket and counts
exactly the entries of its buckets. -/
structure Agrees (r : List (TimelineReply α) × Timeline α) (s : List (TimelineReply α) × Pending α) :
    Prop where
  replies : r.1 = s.1
  earliest : r.2.nextArrival.map Time.nanos = s.2.earliest
  size : r.2.size = s.2.entries.length
  isEmpty : r.2.isEmpty = s.2.entries.isEmpty
  nonempty : ∀ b ∈ r.2.buckets, b.2 ≠ []
  counted : r.2.len = (r.2.buckets.map (·.2.length)).sum

/-- A timeline behaves as the plain list of what is pending, along every run from empty. -/
theorem run_refines_pending (calls : List (TimelineCall α)) :
    Agrees (({} : Timeline α).run calls) (({} : Pending α).run calls) := by
  obtain ⟨hreplies, hholds⟩ := run_holds calls (t := ({} : Timeline α)) (p := {}) ⟨List.Perm.refl _, rfl⟩
  exact ⟨hreplies, hholds.earliest, hholds.size, hholds.isEmpty,
    (({} : Timeline α).run calls).2.wf.nonempty,
    (({} : Timeline α).run calls).2.wf.counted.trans (count_eq_sum _)⟩

end Timeline

end FiberEffects
