import FiberEffects.Time.Timeline
import Mathlib

namespace FiberEffects

namespace Timeline

variable {α : Type}

def keyed (bs : List (Time × List (Nat × α))) : List (TimelineKey × α) :=
  bs.flatMap fun b => b.2.map fun x => (⟨b.1, x.1⟩, x.2)

def entries (t : Timeline α) : List (TimelineKey × α) := keyed t.buckets

def insertEntry (k : TimelineKey) (x : α) : List (TimelineKey × α) → List (TimelineKey × α)
  | [] => [(k, x)]
  | (k', y) :: rest =>
    if k.arrival < k'.arrival then (k, x) :: (k', y) :: rest
    else (k', y) :: insertEntry k x rest

def Earlier (k k' : TimelineKey) : Prop :=
  k.arrival < k'.arrival ∨ k.arrival = k'.arrival ∧ k.seq < k'.seq

theorem Earlier.ne {k k' : TimelineKey} (h : Earlier k k') : k ≠ k' := by
  rintro rfl
  rcases h with h | ⟨-, h⟩ <;> exact Nat.lt_irrefl _ h

theorem Earlier.asymm {k k' : TimelineKey} (h : Earlier k k') : ¬ Earlier k' k := by
  rintro (h' | ⟨he', h'⟩) <;> rcases h with h | ⟨he, h⟩
  · exact Nat.lt_asymm h h'
  · exact Nat.lt_irrefl _ (he ▸ h')
  · exact Nat.lt_irrefl _ (he' ▸ h)
  · exact Nat.lt_asymm h h'

section Keyed

variable {bs : List (Time × List (Nat × α))}

@[simp] theorem keyed_nil : keyed ([] : List (Time × List (Nat × α))) = [] := rfl

@[simp] theorem keyed_cons (b : Time × List (Nat × α)) (bs : List (Time × List (Nat × α))) :
    keyed (b :: bs) = b.2.map (fun x => (⟨b.1, x.1⟩, x.2)) ++ keyed bs := rfl

theorem mem_keyed {e : TimelineKey × α} :
    e ∈ keyed bs ↔ ∃ b ∈ bs, ∃ x ∈ b.2, e = (⟨b.1, x.1⟩, x.2) := by
  simp only [keyed, List.mem_flatMap, List.mem_map]
  constructor
  · rintro ⟨b, hb, x, hx, rfl⟩
    exact ⟨b, hb, x, hx, rfl⟩
  · rintro ⟨b, hb, x, hx, rfl⟩
    exact ⟨b, hb, x, hx, rfl⟩

theorem length_keyed (bs : List (Time × List (Nat × α))) : (keyed bs).length = count bs := by
  induction bs with
  | nil => rfl
  | cons b rest ih => simp [ih, count]

theorem tasksOf_eq_keyed (bs : List (Time × List (Nat × α))) :
    tasksOf bs = (keyed bs).map (·.2) := by
  induction bs with
  | nil => rfl
  | cons b rest ih =>
    simp only [tasksOf, List.flatMap_cons, keyed_cons, List.map_append, List.map_map] at ih ⊢
    rw [ih]
    rfl

/-- Keeping the buckets whose arrival passes a test keeps the entries that pass it. -/
theorem keyed_filter (p : Time → Bool) (bs : List (Time × List (Nat × α))) :
    keyed (bs.filter fun b => p b.1) = (keyed bs).filter fun e => p e.1.arrival := by
  induction bs with
  | nil => rfl
  | cons b rest ih =>
    have hown : ∀ e ∈ b.2.map (fun x => ((⟨b.1, x.1⟩ : TimelineKey), x.2)), e.1.arrival = b.1 := by
      intro e he
      obtain ⟨x, -, rfl⟩ := List.mem_map.1 he
      rfl
    rw [keyed_cons, List.filter_append, List.filter_cons]
    by_cases hp : p b.1 = true
    · have hall : (b.2.map fun x => ((⟨b.1, x.1⟩ : TimelineKey), x.2)).filter
          (fun e => p e.1.arrival) = b.2.map fun x => ((⟨b.1, x.1⟩ : TimelineKey), x.2) :=
        List.filter_eq_self.2 fun e he => (hown e he).symm ▸ hp
      rw [if_pos hp, keyed_cons, ih, hall]
    · have hnone : (b.2.map fun x => ((⟨b.1, x.1⟩ : TimelineKey), x.2)).filter
          (fun e => p e.1.arrival) = [] :=
        List.filter_eq_nil_iff.2 fun e he => (hown e he).symm ▸ hp
      rw [if_neg hp, ih, hnone, List.nil_append]

/-- The entries of ascending buckets with ascending numbers come in key order. -/
theorem keyed_sorted (asc : bs.Pairwise fun b c => b.1 < c.1)
    (inOrder : ∀ b ∈ bs, b.2.Pairwise fun x y => x.1 < y.1) :
    (keyed bs).Pairwise fun e f => Earlier e.1 f.1 := by
  induction bs with
  | nil => exact List.Pairwise.nil
  | cons b rest ih =>
    rw [List.pairwise_cons] at asc
    rw [keyed_cons, List.pairwise_append]
    refine ⟨?_, ih asc.2 fun c hc => inOrder c (List.mem_cons_of_mem _ hc), ?_⟩
    · -- within a bucket the arrival is shared and the numbers ascend
      exact List.pairwise_map.2 ((inOrder b List.mem_cons_self).imp fun h => .inr ⟨rfl, h⟩)
    · intro e he f hf
      obtain ⟨x, -, rfl⟩ := List.mem_map.1 he
      obtain ⟨c, hc, y, -, rfl⟩ := mem_keyed.1 hf
      exact .inl (asc.1 c hc)

/-- The first entry of buckets none of which is empty arrives at the first bucket's time. -/
theorem head?_keyed (hne : ∀ b ∈ bs, b.2 ≠ []) :
    (keyed bs).head?.map (·.1.arrival) = bs.head?.map (·.1) := by
  cases bs with
  | nil => rfl
  | cons b rest =>
    obtain ⟨x, xs, hx⟩ := List.exists_cons_of_ne_nil (hne b List.mem_cons_self)
    simp [hx]

theorem insertEntry_of_forall_lt {k : TimelineKey} {x : α} {l : List (TimelineKey × α)}
    (h : ∀ e ∈ l, k.arrival < e.1.arrival) : insertEntry k x l = (k, x) :: l := by
  cases l with
  | nil => rfl
  | cons e rest => simp [insertEntry, h e List.mem_cons_self]

theorem insertEntry_append {k : TimelineKey} {x : α} {l₂ : List (TimelineKey × α)} :
    ∀ {l₁ : List (TimelineKey × α)}, (∀ e ∈ l₁, ¬ k.arrival < e.1.arrival) →
      insertEntry k x (l₁ ++ l₂) = l₁ ++ insertEntry k x l₂
  | [], _ => rfl
  | e :: rest, h => by
    rw [List.cons_append, insertEntry, if_neg (h e List.mem_cons_self),
      insertEntry_append fun f hf => h f (List.mem_cons_of_mem _ hf), List.cons_append]

/-- Pushing an entry onto ascending buckets inserts it after every entry that arrives no later. -/
theorem keyed_pushAt (a : Time) (n : Nat) (x : α) :
    ∀ {bs : List (Time × List (Nat × α))}, bs.Pairwise (fun b c => b.1 < c.1) →
      keyed (pushAt a (n, x) bs) = insertEntry ⟨a, n⟩ x (keyed bs)
  | [], _ => rfl
  | b :: rest, asc => by
    rw [List.pairwise_cons] at asc
    -- every entry after this bucket arrives later than it
    have hlater : ∀ e ∈ keyed rest, b.1 < e.1.arrival := by
      intro e he
      obtain ⟨c, hc, y, -, rfl⟩ := mem_keyed.1 he
      exact asc.1 c hc
    have hown : ∀ e ∈ b.2.map (fun y => ((⟨b.1, y.1⟩ : TimelineKey), y.2)), e.1.arrival = b.1 := by
      intro e he
      obtain ⟨y, -, rfl⟩ := List.mem_map.1 he
      rfl
    unfold pushAt
    split
    · rename_i hlt
      rw [keyed_cons, insertEntry_of_forall_lt]
      · rfl
      · intro e he
        rcases List.mem_append.1 he with he | he
        · exact (hown e he).symm ▸ hlt
        · exact Nat.lt_trans hlt (hlater e he)
    · rename_i hge
      rw [keyed_cons, insertEntry_append fun e he => (hown e he).symm ▸ hge]
      split
      · rename_i heq
        subst heq
        rw [keyed_cons, List.map_append, List.append_assoc, insertEntry_of_forall_lt hlater]
        rfl
      · rw [keyed_cons, keyed_pushAt a n x asc.2]

theorem eraseP_eq_filter {s : Nat} :
    ∀ {l : List (Nat × α)}, l.Pairwise (fun x y => x.1 < y.1) →
      l.eraseP (·.1 == s) = l.filter (·.1 != s)
  | [], _ => rfl
  | x :: rest, hs => by
    rw [List.pairwise_cons] at hs
    by_cases hx : x.1 = s
    · have hrest : rest.filter (·.1 != s) = rest :=
        List.filter_eq_self.2 fun y hy => by
          have := hs.1 y hy
          simp only [bne_iff_ne, ne_eq]
          omega
      simp [hx, hrest]
    · simp [hx, eraseP_eq_filter hs.2]

/-- Taking an entry out of buckets with ascending numbers drops exactly the entries with its key. -/
theorem keyed_filterMap_dropEntry (k : TimelineKey)
    (inOrder : ∀ b ∈ bs, b.2.Pairwise fun x y => x.1 < y.1) :
    keyed (bs.filterMap (dropEntry k)) = (keyed bs).filter (·.1 != k) := by
  induction bs with
  | nil => rfl
  | cons b rest ih =>
    rw [List.filterMap_cons, keyed_cons, List.filter_append,
      ← ih fun c hc => inOrder c (List.mem_cons_of_mem _ hc)]
    by_cases hb : b.1 = k.arrival
    · -- this bucket loses the entries with the key's number, and goes once it is empty
      have herase := eraseP_eq_filter (s := k.seq) (inOrder b List.mem_cons_self)
      have hmine : (b.2.map fun x => ((⟨b.1, x.1⟩ : TimelineKey), x.2)).filter (·.1 != k) =
          (b.2.filter (·.1 != k.seq)).map fun x => ((⟨b.1, x.1⟩ : TimelineKey), x.2) := by
        rw [List.filter_map]
        congr 1
        apply List.filter_congr
        intro y _
        obtain ⟨ka, ks⟩ := k
        simp only at hb
        subst hb
        by_cases h : y.1 = ks
        · simp [h]
        · have hne : (⟨b.1, y.1⟩ : TimelineKey) ≠ ⟨b.1, ks⟩ := fun e => h (congrArg TimelineKey.seq e)
          show ((⟨b.1, y.1⟩ : TimelineKey) != ⟨b.1, ks⟩) = (y.1 != ks)
          rw [bne_iff_ne.2 hne, bne_iff_ne.2 h]
      rw [hmine, ← herase]
      by_cases hemp : (b.2.eraseP (·.1 == k.seq)).isEmpty
      · rw [List.isEmpty_iff] at hemp
        simp [dropEntry, hb, hemp]
      · simp [dropEntry, hb, hemp]
    · have hall : (b.2.map fun x => ((⟨b.1, x.1⟩ : TimelineKey), x.2)).filter (·.1 != k) =
          b.2.map fun x => ((⟨b.1, x.1⟩ : TimelineKey), x.2) := by
        apply List.filter_eq_self.2
        intro e he
        obtain ⟨y, -, rfl⟩ := List.mem_map.1 he
        simp only [bne_iff_ne, ne_eq]
        intro h
        exact hb (congrArg TimelineKey.arrival h)
      rw [hall, dropEntry_of_ne hb]
      rfl

/-- Within the bucket of a key's arrival, the entry under the key is the one with its number. -/
theorem find?_bucket {k : TimelineKey} {b : Time × List (Nat × α)} (hb : b.1 = k.arrival) :
    (b.2.map fun x => ((⟨b.1, x.1⟩ : TimelineKey), x.2)).find? (·.1 == k) =
      (b.2.find? (·.1 == k.seq)).map fun x => ((⟨b.1, x.1⟩ : TimelineKey), x.2) := by
  rw [List.find?_map]
  congr 2
  funext y
  obtain ⟨ka, ks⟩ := k
  simp only at hb
  subst hb
  simp

/-- Looking a key up in its bucket finds the first entry with that key. -/
theorem lookupIn_eq (k : TimelineKey) (asc : bs.Pairwise fun b c => b.1 < c.1) :
    lookupIn bs k = ((keyed bs).find? (·.1 == k)).map (·.2) := by
  induction bs with
  | nil => rfl
  | cons b rest ih =>
    rw [List.pairwise_cons] at asc
    rw [keyed_cons, List.find?_append]
    by_cases hb : b.1 = k.arrival
    · -- no later bucket holds the arrival
      have hnone : (keyed rest).find? (·.1 == k) = none := by
        rw [List.find?_eq_none]
        intro e he
        obtain ⟨c, hc, y, -, rfl⟩ := mem_keyed.1 he
        have hlt := asc.1 c hc
        simp only [beq_iff_eq]
        intro h
        rw [← h] at hb
        exact Nat.lt_irrefl _ (hb ▸ hlt)
      rw [hnone, Option.or_none, find?_bucket hb, Option.map_map]
      simp only [lookupIn, List.find?_cons, hb, beq_self_eq_true, Option.bind_some]
      rfl
    · have hskip : (b.2.map fun x => ((⟨b.1, x.1⟩ : TimelineKey), x.2)).find? (·.1 == k) = none := by
        rw [List.find?_eq_none]
        intro e he
        obtain ⟨y, -, rfl⟩ := List.mem_map.1 he
        simp only [beq_iff_eq]
        intro h
        exact hb (congrArg TimelineKey.arrival h)
      rw [hskip, Option.none_or, ← ih asc.2]
      simp [lookupIn, hb]

end Keyed

variable (t : Timeline α)

theorem entries_sorted : t.entries.Pairwise fun e f => Earlier e.1 f.1 :=
  keyed_sorted t.wf.ascending t.wf.inOrder

theorem seq_lt_of_mem_entries {e : TimelineKey × α} (he : e ∈ t.entries) : e.1.seq < t.nextSeq := by
  obtain ⟨b, hb, x, hx, rfl⟩ := mem_keyed.1 he
  exact t.wf.fresh b hb x hx

theorem nextArrival_eq_head : t.nextArrival = t.entries.head?.map (·.1.arrival) :=
  (head?_keyed t.wf.nonempty).symm

theorem size_eq_length : t.size = t.entries.length := by
  rw [size, t.wf.counted, entries, length_keyed]

theorem isEmpty_eq : t.isEmpty = t.entries.isEmpty := by
  rw [isEmpty, ← size, size_eq_length]
  cases t.entries <;> rfl

theorem add_fst (a : Time) (x : α) :
    (t.add a x).1 = (⟨a, t.nextSeq⟩, match t.nextArrival with
      | none => true
      | some first => decide (a < first)) := rfl

theorem entries_add (a : Time) (x : α) :
    (t.add a x).2.entries = insertEntry ⟨a, t.nextSeq⟩ x t.entries :=
  keyed_pushAt a t.nextSeq x t.wf.ascending

theorem lookup_eq (k : TimelineKey) : t.lookup k = (t.entries.find? (·.1 == k)).map (·.2) :=
  lookupIn_eq k t.wf.ascending

theorem remove_fst (k : TimelineKey) : (t.remove k).1 = (t.entries.find? (·.1 == k)).map (·.2) := by
  rw [← lookup_eq]
  unfold remove
  split <;> simp_all

theorem entries_remove (k : TimelineKey) : (t.remove k).2.entries = t.entries.filter (·.1 != k) := by
  unfold remove
  split
  · exact keyed_filterMap_dropEntry k t.wf.inOrder
  · rename_i hnone
    -- nothing is under the key, so the filter keeps every entry
    rw [lookup_eq, Option.map_eq_none_iff, List.find?_eq_none] at hnone
    exact (List.filter_eq_self.2 fun e he => by simpa using hnone e he).symm

theorem splitDue_eq (bs : List (Time × List (Nat × α))) (now : Time) :
    splitDue bs now = (bs.filter (·.1 ≤ now), bs.filter fun b => !decide (b.1 ≤ now)) := by
  unfold splitDue
  split
  · rename_i htop
    subst htop
    have hle : ∀ b : Time × List (Nat × α), b.1 ≤ Time.top := fun b => by
      show b.1.nanos ≤ (Time.ofNat maxNanos).nanos
      rw [Time.ofNat_nanos_of_le (Nat.le_refl _)]
      exact b.1.nanos_le
    rw [List.filter_eq_self.2 fun b _ => decide_eq_true (hle b),
      List.filter_eq_nil_iff.2 fun b _ => by simp [hle b]]
  · rename_i htop
    -- below the largest instant the next one does not saturate
    have hlt : now.nanos < maxNanos := by
      refine Nat.lt_of_le_of_ne now.nanos_le fun h => htop (Time.eq_of_nanos_eq ?_)
      rw [h, Time.top, Time.ofNat_nanos_of_le (Nat.le_refl _)]
    have hnext : (now.addNanos 1).nanos = now.nanos + 1 := Time.ofNat_nanos_of_le hlt
    have hiff : ∀ b : Time × List (Nat × α), b.1 < now.addNanos 1 ↔ b.1 ≤ now := fun b => by
      show b.1.nanos < (now.addNanos 1).nanos ↔ b.1.nanos ≤ now.nanos
      omega
    congr 1
    · exact List.filter_congr fun b _ => by simp [hiff b]
    · exact List.filter_congr fun b _ => by simp [hiff b]

theorem entries_takeReady (now : Time) :
    (t.takeReady now).2.entries = t.entries.filter fun e => !decide (e.1.arrival ≤ now) := by
  show keyed (splitDue t.buckets now).2 = _
  rw [splitDue_eq]
  exact keyed_filter (fun a => !decide (a ≤ now)) t.buckets

theorem takeReady_fst (now : Time) :
    (t.takeReady now).1 = (t.entries.filter (·.1.arrival ≤ now)).map (·.2) := by
  show tasksOf (splitDue t.buckets now).1 = _
  rw [splitDue_eq, tasksOf_eq_keyed]
  exact congrArg (List.map (·.2)) (keyed_filter (fun a => decide (a ≤ now)) t.buckets)

-- a task at the largest instant is due at it, and not an instant before
example : ((({} : Timeline Nat).add Time.top 7).2.takeReady Time.top).1 = [7] := by decide
example : ((({} : Timeline Nat).add Time.top 7).2.takeReady (Time.ofNat (maxNanos - 1))).1 = [] := by
  decide

end Timeline

end FiberEffects
