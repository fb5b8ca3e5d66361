import FiberEffects.Time.Basic

namespace FiberEffects

/-- The key of a timeline entry. -/
structure TimelineKey where
  arrival : Time
  seq : Nat
  deriving DecidableEq, Inhabited

namespace Timeline

variable {α : Type}

def count : List (Time × List (Nat × α)) → Nat
  | [] => 0
  | b :: rest => b.2.length + count rest

/-- What keeps the buckets of a timeline, its next sequence number and its count consistent. -/
structure Wf (buckets : List (Time × List (Nat × α))) (nextSeq len : Nat) : Prop where
  ascending : buckets.Pairwise fun b c => b.1 < c.1
  nonempty : ∀ b ∈ buckets, b.2 ≠ []
  counted : len = count buckets
  inOrder : ∀ b ∈ buckets, b.2.Pairwise fun x y => x.1 < y.1
  fresh : ∀ b ∈ buckets, ∀ x ∈ b.2, x.1 < nextSeq

theorem Wf.nil (n : Nat) : Wf ([] : List (Time × List (Nat × α))) n 0 :=
  ⟨List.Pairwise.nil, by simp, rfl, by simp, by simp⟩

end Timeline

/-- Tasks waiting for their arrival: buckets by arrival time, the next sequence number to give,
and the number of entries. -/
structure Timeline (α : Type) where
  buckets : List (Time × List (Nat × α))
  nextSeq : Nat
  len : Nat
  wf : Timeline.Wf buckets nextSeq len

namespace Timeline

variable {α : Type}

def empty : Timeline α := ⟨[], 0, 0, Wf.nil 0⟩

instance : EmptyCollection (Timeline α) := ⟨empty⟩

instance : Inhabited (Timeline α) := ⟨empty⟩

def pushAt (a : Time) (x : Nat × α) : List (Time × List (Nat × α)) → List (Time × List (Nat × α))
  | [] => [(a, [x])]
  | b :: rest =>
    if a < b.1 then (a, [x]) :: b :: rest
    else if a = b.1 then (b.1, b.2 ++ [x]) :: rest
    else b :: pushAt a x rest

def lookupIn (bs : List (Time × List (Nat × α))) (k : TimelineKey) : Option α :=
  (bs.find? (·.1 == k.arrival)).bind fun b => (b.2.find? (·.1 == k.seq)).map (·.2)

def dropEntry (k : TimelineKey) (b : Time × List (Nat × α)) : Option (Time × List (Nat × α)) :=
  if b.1 = k.arrival then
    let rest := b.2.eraseP (·.1 == k.seq)
    if rest.isEmpty then none else some (b.1, rest)
  else some b

def splitDue (bs : List (Time × List (Nat × α))) (now : Time) :
    List (Time × List (Nat × α)) × List (Time × List (Nat × α)) :=
  if now = Time.top then (bs, [])
  else (bs.filter (·.1 < now.addNanos 1), bs.filter fun b => !decide (b.1 < now.addNanos 1))

def tasksOf (bs : List (Time × List (Nat × α))) : List α := bs.flatMap fun b => b.2.map (·.2)

section Wf

variable {bs : List (Time × List (Nat × α))} {n len : Nat}

theorem mem_pushAt {a : Time} {x : Nat × α} {c : Time × List (Nat × α)} :
    ∀ {bs : List (Time × List (Nat × α))}, c ∈ pushAt a x bs →
      c = (a, [x]) ∨ c ∈ bs ∨ ∃ b ∈ bs, b.1 = a ∧ c = (a, b.2 ++ [x])
  | [], hc => .inl (by simpa [pushAt] using hc)
  | b :: rest, hc => by
    unfold pushAt at hc
    split at hc
    · rcases List.mem_cons.1 hc with rfl | hc
      · exact .inl rfl
      · exact .inr (.inl hc)
    · split at hc
      · rename_i heq
        rcases List.mem_cons.1 hc with rfl | hc
        · exact .inr (.inr ⟨b, List.mem_cons_self, heq.symm, by rw [heq]⟩)
        · exact .inr (.inl (List.mem_cons_of_mem _ hc))
      · rcases List.mem_cons.1 hc with rfl | hc
        · exact .inr (.inl List.mem_cons_self)
        · rcases mem_pushAt hc with h | h | ⟨b', hb', h⟩
          · exact .inl h
          · exact .inr (.inl (List.mem_cons_of_mem _ h))
          · exact .inr (.inr ⟨b', List.mem_cons_of_mem _ hb', h⟩)

theorem ascending_pushAt (a : Time) (x : Nat × α) :
    ∀ {bs : List (Time × List (Nat × α))}, bs.Pairwise (fun b c => b.1 < c.1) →
      (pushAt a x bs).Pairwise fun b c => b.1 < c.1
  | [], _ => List.pairwise_singleton _ _
  | b :: rest, hs => by
    rw [List.pairwise_cons] at hs
    unfold pushAt
    split
    · rename_i hlt
      refine List.pairwise_cons.2 ⟨fun c hc => ?_, List.pairwise_cons.2 hs⟩
      rcases List.mem_cons.1 hc with rfl | hc
      · exact hlt
      · exact Nat.lt_trans hlt (hs.1 c hc)
    · split
      · rename_i heq
        exact List.pairwise_cons.2 ⟨fun c hc => hs.1 c hc, hs.2⟩
      · rename_i hge hne
        -- the new arrival is later than this bucket, so every bucket after it is too
        have hlt : b.1 < a :=
          Nat.lt_of_le_of_ne (Nat.le_of_not_lt hge) fun h => hne (Time.eq_of_nanos_eq h.symm)
        refine List.pairwise_cons.2 ⟨fun c hc => ?_, ascending_pushAt a x hs.2⟩
        rcases mem_pushAt hc with rfl | hc | ⟨b', hb', hb'a, rfl⟩
        · exact hlt
        · exact hs.1 c hc
        · exact hb'a ▸ hs.1 b' hb'

theorem count_pushAt (a : Time) (x : Nat × α) :
    ∀ bs : List (Time × List (Nat × α)), count (pushAt a x bs) = count bs + 1
  | [] => rfl
  | b :: rest => by
    unfold pushAt
    split
    · simp only [count, List.length_singleton]
      omega
    · split
      · simp only [count, List.length_append, List.length_singleton]
        omega
      · simp only [count, count_pushAt a x rest]
        omega

/-- Adding an entry with the next sequence number keeps a timeline consistent. -/
theorem Wf.pushAt (hw : Wf bs n len) (a : Time) (x : α) :
    Wf (Timeline.pushAt a (n, x) bs) (n + 1) (len + 1) where
  ascending := ascending_pushAt a _ hw.ascending
  nonempty c hc := by
    rcases mem_pushAt hc with rfl | hc | ⟨b, -, -, rfl⟩
    · simp
    · exact hw.nonempty c hc
    · simp
  counted := by rw [count_pushAt, hw.counted]
  inOrder c hc := by
    rcases mem_pushAt hc with rfl | hc | ⟨b, hb, -, rfl⟩
    · exact List.pairwise_singleton _ _
    · exact hw.inOrder c hc
    · -- the new entry comes last, with a number above every one in the bucket
      refine List.pairwise_append.2 ⟨hw.inOrder b hb, List.pairwise_singleton _ _, ?_⟩
      intro y hy z hz
      rw [List.mem_singleton] at hz
      subst hz
      exact hw.fresh b hb y hy
  fresh c hc y hy := by
    rcases mem_pushAt hc with rfl | hc | ⟨b, hb, -, rfl⟩
    · rw [List.mem_singleton.1 hy]
      exact Nat.lt_succ_self n
    · exact Nat.lt_succ_of_lt (hw.fresh c hc y hy)
    · rcases List.mem_append.1 hy with hy | hy
      · exact Nat.lt_succ_of_lt (hw.fresh b hb y hy)
      · rw [List.mem_singleton.1 hy]
        exact Nat.lt_succ_self n

/-- Buckets taken from a consistent timeline, in order, are consistent with their own count. -/
theorem Wf.sublist {bs' : List (Time × List (Nat × α))} (hw : Wf bs n len) (hs : bs'.Sublist bs) :
    Wf bs' n (count bs') where
  ascending := hw.ascending.sublist hs
  nonempty b hb := hw.nonempty b (hs.subset hb)
  counted := rfl
  inOrder b hb := hw.inOrder b (hs.subset hb)
  fresh b hb := hw.fresh b (hs.subset hb)

theorem count_filter_add (p : Time × List (Nat × α) → Bool) :
    ∀ bs : List (Time × List (Nat × α)),
      count (bs.filter p) + count (bs.filter fun b => !p b) = count bs
  | [] => rfl
  | b :: rest => by
    have ih := count_filter_add p rest
    cases hp : p b <;> simp only [List.filter_cons, hp, Bool.not_true, Bool.not_false, if_true,
      Bool.false_eq_true, if_false, count] <;> omega

theorem length_tasksOf (bs : List (Time × List (Nat × α))) : (tasksOf bs).length = count bs := by
  induction bs with
  | nil => rfl
  | cons b rest ih =>
    simp only [tasksOf, List.flatMap_cons, List.length_append, List.length_map, count] at ih ⊢
    omega

/-- The buckets left after a drain, counted by what the count loses, keep a timeline consistent. -/
theorem Wf.splitDue (hw : Wf bs n len) (now : Time) :
    Wf (Timeline.splitDue bs now).2 n (len - (tasksOf (Timeline.splitDue bs now).1).length) := by
  unfold Timeline.splitDue
  split
  · have h := (hw.sublist (List.nil_sublist bs))
    simp only [length_tasksOf, ← hw.counted, Nat.sub_self]
    exact h
  · have hsum := count_filter_add (fun b => decide (b.1 < now.addNanos 1)) bs
    have hcount : len - (tasksOf (bs.filter (·.1 < now.addNanos 1))).length =
        count (bs.filter fun b => !decide (b.1 < now.addNanos 1)) := by
      rw [length_tasksOf, hw.counted]
      omega
    rw [hcount]
    exact hw.sublist List.filter_sublist

theorem dropEntry_of_ne {k : TimelineKey} {b : Time × List (Nat × α)} (h : b.1 ≠ k.arrival) :
    dropEntry k b = some b := by
  simp [dropEntry, h]

theorem filterMap_dropEntry_of_lt {k : TimelineKey} :
    ∀ {bs : List (Time × List (Nat × α))}, (∀ b ∈ bs, k.arrival < b.1) →
      bs.filterMap (dropEntry k) = bs
  | [], _ => rfl
  | b :: rest, hlt => by
    have hne : b.1 ≠ k.arrival := fun h => Nat.lt_irrefl _ (h ▸ hlt b List.mem_cons_self)
    rw [List.filterMap_cons, dropEntry_of_ne hne,
      filterMap_dropEntry_of_lt fun c hc => hlt c (List.mem_cons_of_mem _ hc)]

/-- Taking out an entry that waits removes exactly one entry from the buckets. -/
theorem count_filterMap_dropEntry {k : TimelineKey} {x : α} :
    ∀ {bs : List (Time × List (Nat × α))}, bs.Pairwise (fun b c => b.1 < c.1) →
      lookupIn bs k = some x →
      count (bs.filterMap (dropEntry k)) + 1 = count bs
  | [], _, hx => by simp [lookupIn] at hx
  | b :: rest, hs, hx => by
    rw [List.pairwise_cons] at hs
    by_cases hb : b.1 = k.arrival
    · -- the entry is in this bucket; the later buckets are untouched
      have hrest : rest.filterMap (dropEntry k) = rest :=
        filterMap_dropEntry_of_lt fun c hc => hb ▸ hs.1 c hc
      obtain ⟨y, hy, hyk⟩ : ∃ y ∈ b.2, (y.1 == k.seq) = true := by
        simp only [lookupIn, List.find?_cons, hb, beq_self_eq_true, Option.bind_some] at hx
        obtain ⟨y, hy, -⟩ := Option.map_eq_some_iff.1 hx
        have hyk := List.find?_some hy
        exact ⟨y, List.mem_of_find?_eq_some hy, hyk⟩
      have hlen : (b.2.eraseP (·.1 == k.seq)).length = b.2.length - 1 :=
        List.length_eraseP_of_mem hy hyk
      have hpos : 0 < b.2.length := List.length_pos_of_mem hy
      rw [List.filterMap_cons]
      by_cases hemp : (b.2.eraseP (·.1 == k.seq)).isEmpty
      · rw [List.isEmpty_iff] at hemp
        rw [hemp] at hlen
        simp only [dropEntry, hb, hemp, List.isEmpty_nil, if_true, count, hrest,
          List.length_nil] at hlen ⊢
        omega
      · simp only [dropEntry, hb, hemp, if_true, Bool.false_eq_true, if_false, count, hrest,
          hlen]
        rw [Nat.add_right_comm, Nat.sub_add_cancel hpos]
    · have hx' : lookupIn rest k = some x := by
        simpa [lookupIn, List.find?_cons, hb] using hx
      rw [List.filterMap_cons, dropEntry_of_ne hb, count, count, ← count_filterMap_dropEntry hs.2 hx']
      omega

theorem fst_of_dropEntry {k : TimelineKey} {b c : Time × List (Nat × α)}
    (h : dropEntry k b = some c) : c.1 = b.1 := by
  unfold dropEntry at h
  split at h
  · dsimp only at h
    split at h
    · cases h
    · cases h
      rfl
  · cases h
    rfl

theorem mem_filterMap_dropEntry {k : TimelineKey} {c : Time × List (Nat × α)}
    {bs : List (Time × List (Nat × α))} (hc : c ∈ bs.filterMap (dropEntry k)) :
    ∃ b ∈ bs, c.1 = b.1 ∧ c.2.Sublist b.2 ∧ (c = b ∨ c.2 ≠ []) := by
  obtain ⟨b, hb, hbc⟩ := List.mem_filterMap.1 hc
  refine ⟨b, hb, ?_⟩
  unfold dropEntry at hbc
  split at hbc
  · dsimp only at hbc
    split at hbc
    · cases hbc
    · rename_i hne
      cases hbc
      refine ⟨rfl, List.eraseP_sublist, .inr fun h => hne ?_⟩
      rw [List.isEmpty_iff]
      exact h
  · cases hbc
    exact ⟨rfl, List.Sublist.refl _, .inl rfl⟩

/-- Taking out an entry that waits keeps a timeline consistent, with one entry less. -/
theorem Wf.dropEntry {k : TimelineKey} {x : α} (hw : Wf bs n len) (hx : lookupIn bs k = some x) :
    Wf (bs.filterMap (Timeline.dropEntry k)) n (len - 1) where
  ascending := by
    refine List.pairwise_filterMap.2 (hw.ascending.imp ?_)
    intro b c hbc b' hb' c' hc'
    rw [fst_of_dropEntry hb', fst_of_dropEntry hc']
    exact hbc
  nonempty c hc := by
    obtain ⟨b, hb, -, -, rfl | hne⟩ := mem_filterMap_dropEntry hc
    · exact hw.nonempty c hb
    · exact hne
  counted := by
    have h := count_filterMap_dropEntry hw.ascending hx
    rw [hw.counted]
    omega
  inOrder c hc := by
    obtain ⟨b, hb, -, hsub, -⟩ := mem_filterMap_dropEntry hc
    exact (hw.inOrder b hb).sublist hsub
  fresh c hc y hy := by
    obtain ⟨b, hb, -, hsub, -⟩ := mem_filterMap_dropEntry hc
    exact hw.fresh b hb y (hsub.subset hy)

end Wf

def nextArrival (t : Timeline α) : Option Time := t.buckets.head?.map (·.1)

def size (t : Timeline α) : Nat := t.len

def isEmpty (t : Timeline α) : Bool := t.len == 0

def add (t : Timeline α) (arrival : Time) (x : α) : (TimelineKey × Bool) × Timeline α :=
  let nearest := match t.nextArrival with
    | none => true
    | some first => decide (arrival < first)
  ((⟨arrival, t.nextSeq⟩, nearest),
    ⟨pushAt arrival (t.nextSeq, x) t.buckets, t.nextSeq + 1, t.len + 1, t.wf.pushAt arrival x⟩)

def lookup (t : Timeline α) (k : TimelineKey) : Option α := lookupIn t.buckets k

def remove (t : Timeline α) (k : TimelineKey) : Option α × Timeline α :=
  match h : t.lookup k with
  | some x => (some x, ⟨t.buckets.filterMap (dropEntry k), t.nextSeq, t.len - 1, t.wf.dropEntry h⟩)
  | none => (none, t)

def takeReady (t : Timeline α) (now : Time) : List α × Timeline α :=
  let split := splitDue t.buckets now
  let tasks := tasksOf split.1
  (tasks, ⟨split.2, t.nextSeq, t.len - tasks.length, t.wf.splitDue now⟩)

def debug (t : Timeline α) : String :=
  let next := match t.nextArrival with
    | some a => s!"Some({a.debug})"
    | none => "None"
  s!"Timeline \x7b len: {t.size}, next_arrival: {next} \x7d"

end Timeline

end FiberEffects
