import FiberEffects.Proofs.CmdContract
import FiberEffects.Proofs.TimelineEntries
import FiberEffects.Time.Scheduler

namespace FiberEffects

namespace Timeline

variable {α : Type}

def Sorted (t : Timeline α) : Prop := t.entries.Pairwise fun a b => a.1.arrival ≤ b.1.arrival

theorem mem_insertEntry {k : TimelineKey} {x : α} {b : TimelineKey × α} :
    ∀ {l : List (TimelineKey × α)}, b ∈ insertEntry k x l → b = (k, x) ∨ b ∈ l
  | [], hb => by simpa [insertEntry] using hb
  | e :: rest, hb => by
    unfold insertEntry at hb
    split at hb
    · simpa using hb
    · rcases List.mem_cons.1 hb with rfl | hb
      · exact .inr List.mem_cons_self
      · exact (mem_insertEntry hb).imp_right (List.mem_cons_of_mem _)

theorem sorted_insertEntry (k : TimelineKey) (x : α) :
    ∀ {l : List (TimelineKey × α)}, l.Pairwise (fun a b => a.1.arrival ≤ b.1.arrival) →
      (insertEntry k x l).Pairwise fun a b => a.1.arrival ≤ b.1.arrival
  | [], _ => List.pairwise_singleton _ _
  | (k', y) :: rest, hs => by
    rw [List.pairwise_cons] at hs
    unfold insertEntry
    split
    · rename_i hlt
      refine List.pairwise_cons.2 ⟨fun b hb => ?_, List.pairwise_cons.2 hs⟩
      rcases List.mem_cons.1 hb with rfl | hb
      · exact Nat.le_of_lt hlt
      · exact Nat.le_trans (Nat.le_of_lt hlt) (hs.1 b hb)
    · rename_i hge
      refine List.pairwise_cons.2 ⟨fun b hb => ?_, sorted_insertEntry k x hs.2⟩
      -- an entry of the insertion is the new one, which arrives no earlier, or an old one
      rcases mem_insertEntry hb with rfl | hb
      · exact Nat.le_of_not_lt hge
      · exact hs.1 b hb

theorem nextArrival_eq_none {t : Timeline α} : t.nextArrival = none ↔ t.entries = [] := by
  rw [nextArrival_eq_head]
  cases t.entries <;> simp

theorem nextArrival_isSome {t : Timeline α} : t.nextArrival.isSome = true ↔ t.entries ≠ [] := by
  rw [nextArrival_eq_head]
  cases t.entries <;> simp

theorem Sorted.add {t : Timeline α} (hs : t.Sorted) (a : Time) (x : α) : (t.add a x).2.Sorted := by
  unfold Sorted
  rw [entries_add]
  exact sorted_insertEntry _ x hs

theorem nextArrival_add (t : Timeline α) (a : Time) (x : α) :
    ((t.add a x).1.2 = true → (t.add a x).2.nextArrival = some a) ∧
      ((t.add a x).1.2 = false → (t.add a x).2.nextArrival = t.nextArrival ∧ t.entries ≠ []) := by
  rw [add_fst, nextArrival_eq_head (t.add a x).2, entries_add, nextArrival_eq_head t]
  cases hent : t.entries with
  | nil => simp [insertEntry]
  | cons e rest =>
    by_cases hlt : a < e.1.arrival
    · simp [insertEntry, hlt]
    · simp [insertEntry, hlt]

theorem nearest_add (t : Timeline α) (a : Time) (x : α) :
    (t.add a x).1.2 = true ↔ ∀ n, t.nextArrival = some n → a < n := by
  unfold add
  cases t.nextArrival <;> simp

theorem Sorted.takeReady {t : Timeline α} (hs : t.Sorted) (now : Time) :
    (t.takeReady now).2.Sorted := by
  unfold Sorted
  rw [entries_takeReady]
  exact hs.filter _

theorem mem_takeReady {t : Timeline α} {now : Time} {x : α} (hx : x ∈ (t.takeReady now).1) :
    x ∈ t.entries.map (·.2) := by
  rw [takeReady_fst] at hx
  obtain ⟨e, he, rfl⟩ := List.mem_map.1 hx
  exact List.mem_map_of_mem (List.mem_of_mem_filter he)

theorem remove_sublist (t : Timeline α) (k : TimelineKey) : (t.remove k).2.entries.Sublist t.entries := by
  rw [entries_remove]
  exact List.filter_sublist

theorem Sorted.remove {t : Timeline α} (hs : t.Sorted) (k : TimelineKey) : (t.remove k).2.Sorted :=
  hs.sublist (remove_sublist t k)

/-- Removing a task from a sorted timeline only puts the nearest arrival later. -/
theorem Sorted.nextArrival_remove {t : Timeline α} (hs : t.Sorted) (k : TimelineKey) {n n' : Time}
    (hn : t.nextArrival = some n) (hn' : (t.remove k).2.nextArrival = some n') : n ≤ n' := by
  rw [nextArrival_eq_head] at hn hn'
  rw [entries_remove] at hn'
  cases hent : t.entries with
  | nil => simp [hent] at hn
  | cons e rest =>
    have he : e.1.arrival = n := by simpa [hent] using hn
    -- the new head is some entry of the timeline, which arrives no earlier than the first
    obtain ⟨b, hb, rfl⟩ := Option.map_eq_some_iff.1 hn'
    have hmem : b ∈ t.entries := List.mem_of_mem_filter (List.mem_of_mem_head? hb)
    have hs' : (e :: rest).Pairwise fun a b => a.1.arrival ≤ b.1.arrival := hent ▸ hs
    rw [hent] at hmem
    rcases List.mem_cons.1 hmem with rfl | hmem
    · exact he ▸ Nat.le_refl _
    · exact he ▸ (List.pairwise_cons.1 hs').1 b hmem

theorem remove_nonempty {t : Timeline α} {k : TimelineKey} (hr : (t.remove k).1.isSome = true) :
    t.entries ≠ [] := by
  intro hent
  rw [remove_fst, hent] at hr
  simp at hr

theorem remove_of_none {t : Timeline α} {k : TimelineKey} (hr : (t.remove k).1 = none) :
    (t.remove k).2 = t := by
  rw [remove_fst, ← lookup_eq] at hr
  unfold Timeline.remove
  split
  · rename_i hsome
    rw [hr] at hsome
    cases hsome
  · rfl

end Timeline

namespace CoreCell

variable {x y : CoreCell}

/-- What re-arming needs of a scheduler core: its tasks wait in order of arrival, and none once
it is disposed. -/
structure Ready (x : CoreCell) : Prop where
  sorted : x.timeline.Sorted
  disposed : x.disposed = true → x.timeline.entries = []

/-- A scheduler core keeps its timer in step with its tasks: a timer is armed iff a task waits,
for an arrival no later than the nearest one. -/
structure Tracks (x : CoreCell) : Prop extends x.Ready where
  armed_iff : x.armed.isSome = true ↔ x.timeline.entries ≠ []
  noLater : ∀ a k n, x.armed = some (a, k) → x.timeline.nextArrival = some n → a ≤ n

def ArmedAtNearest (x : CoreCell) : Prop := x.armed.map (·.1) = x.timeline.nextArrival

def rearmAt (x : CoreCell) : Option Time :=
  x.timeline.nextArrival.map fun n => match x.armed with
    | some (a, _) => if n < a then n else a
    | none => n

def ArmedAs (y x : CoreCell) (o : Option Time) : Prop :=
  y = { x with armed := y.armed } ∧ y.armed.map (·.1) = o

theorem ArmedAs.timeline {o : Option Time} (hy : y.ArmedAs x o) : y.timeline = x.timeline := by
  rw [hy.1]

theorem ArmedAs.armedAtNearest {o : Option Time} (hy : y.ArmedAs x o) (ho : o = x.timeline.nextArrival) :
    y.ArmedAtNearest := by
  unfold ArmedAtNearest
  rw [hy.2, ho, hy.timeline]

theorem tracks_of_empty (he : x.timeline.entries = []) (hn : x.armed = none) : x.Tracks where
  sorted := by unfold Timeline.Sorted; rw [he]; exact List.Pairwise.nil
  disposed _ := he
  armed_iff := by simp [he, hn]
  noLater a k n ha := by rw [hn] at ha; cases ha

theorem rearmAt_le {n a : Time} (hn : x.timeline.nextArrival = some n) (ha : x.rearmAt = some a) :
    a ≤ n := by
  unfold rearmAt at ha
  rw [hn, Option.map_some, Option.some.injEq] at ha
  subst ha
  cases x.armed with
  | none => exact Nat.le_refl _
  | some ak =>
    dsimp only
    split
    · exact Nat.le_refl _
    · exact Nat.le_of_not_lt ‹_›

/-- A core that is a ready one with its timer armed where re-arming says tracks its timeline. -/
theorem Ready.tracks_of_rearmAt (hx : x.Ready) (hxy : y.ArmedAs x x.rearmAt) : y.Tracks := by
  obtain ⟨hy, ha⟩ := hxy
  have ht : y.timeline = x.timeline := by rw [hy]
  have hd : y.disposed = x.disposed := by rw [hy]
  refine ⟨⟨ht ▸ hx.sorted, fun hyd => ?_⟩, ?_, fun a k n hak hn => ?_⟩
  · rw [ht]
    exact hx.disposed (hd ▸ hyd)
  · have hsome : y.armed.isSome = x.rearmAt.isSome := by rw [← ha, Option.isSome_map]
    rw [hsome, rearmAt, Option.isSome_map, ht, Timeline.nextArrival_isSome]
  · rw [ht] at hn
    exact rearmAt_le hn (by rw [← ha, hak]; rfl)

theorem rearmAt_of_unarmed (hn : x.armed = none) : x.rearmAt = x.timeline.nextArrival := by
  unfold rearmAt
  cases x.timeline.nextArrival <;> simp [hn]

/-- Re-arming a core armed for its nearest arrival leaves it there. -/
theorem ArmedAtNearest.rearmAt (hx : x.ArmedAtNearest) : x.rearmAt = x.timeline.nextArrival := by
  unfold CoreCell.rearmAt
  cases hn : x.timeline.nextArrival with
  | none => rfl
  | some n =>
    unfold ArmedAtNearest at hx
    rw [hn] at hx
    obtain ⟨⟨a, k⟩, harmed, rfl⟩ := Option.map_eq_some_iff.1 hx
    simp [harmed]

theorem ArmedAtNearest.tracks (hr : x.Ready) (hx : x.ArmedAtNearest) : x.Tracks :=
  hr.tracks_of_rearmAt ⟨rfl, hx.trans hx.rearmAt.symm⟩

theorem Tracks.rearmAt_add (hx : x.Tracks) (a : Time) (t : Nat) (hfar : (x.timeline.add a t).1.2 = false) :
    { x with timeline := (x.timeline.add a t).2 }.rearmAt = x.armed.map (·.1) := by
  obtain ⟨hnext, hne⟩ := (Timeline.nextArrival_add x.timeline a t).2 hfar
  obtain ⟨⟨a₀, k⟩, harmed⟩ := Option.isSome_iff_exists.1 (hx.armed_iff.2 hne)
  obtain ⟨n, hn⟩ := Option.isSome_iff_exists.1 (Timeline.nextArrival_isSome.2 hne)
  have hle : ¬ n < a₀ := Nat.not_lt_of_le (hx.noLater a₀ k n harmed hn)
  simp [CoreCell.rearmAt, hnext, hn, harmed, hle]

theorem ArmedAtNearest.rearmAt_add (hx : x.ArmedAtNearest) (a : Time) (t : Nat) :
    { x with timeline := (x.timeline.add a t).2 }.rearmAt = (x.timeline.add a t).2.nextArrival := by
  cases hnear : (x.timeline.add a t).1.2 with
  | true =>
    have hnext := (Timeline.nextArrival_add x.timeline a t).1 hnear
    have hlt := (Timeline.nearest_add x.timeline a t).1 hnear
    rw [hnext]
    cases harmed : x.armed with
    | none => simp [CoreCell.rearmAt, hnext]
    | some ak =>
      -- the timer is armed for the old nearest arrival, which the new task precedes
      have hold : x.timeline.nextArrival = some ak.1 := by
        rw [← hx, harmed]
        rfl
      simp [CoreCell.rearmAt, hnext, hlt ak.1 hold]
  | false =>
    have hnext := ((Timeline.nextArrival_add x.timeline a t).2 hnear).1
    rw [hnext]
    simp only [CoreCell.rearmAt, hnext]
    exact hx.rearmAt

variable (key : TimelineKey)

theorem Tracks.remove (hx : x.Tracks)
    (hcond : ¬ ((x.timeline.remove key).1.isSome = true ∧ (x.timeline.remove key).2.size = 0)) :
    { x with timeline := (x.timeline.remove key).2 }.Tracks := by
  -- the timeline is as it was, or lost a task and still has one
  have hsame : (x.timeline.remove key).2 = x.timeline ∨
      x.timeline.entries ≠ [] ∧ (x.timeline.remove key).2.entries ≠ [] := by
    cases hr : (x.timeline.remove key).1 with
    | none => exact .inl (Timeline.remove_of_none hr)
    | some y =>
      have hsome : (x.timeline.remove key).1.isSome = true := by rw [hr]; rfl
      refine .inr ⟨Timeline.remove_nonempty hsome, fun he => hcond ⟨hsome, ?_⟩⟩
      rw [Timeline.size_eq_length, he]
      rfl
  refine ⟨⟨hx.sorted.remove key, fun hd => ?_⟩, ?_, fun a k n ha hn => ?_⟩
  · show (x.timeline.remove key).2.entries = []
    rcases hsame with hs | ⟨hold, -⟩
    · rw [hs]
      exact hx.disposed hd
    · exact absurd (hx.disposed hd) hold
  · show x.armed.isSome = true ↔ (x.timeline.remove key).2.entries ≠ []
    rcases hsame with hs | ⟨hold, hnew⟩
    · rw [hs]
      exact hx.armed_iff
    · exact ⟨fun _ => hnew, fun _ => hx.armed_iff.2 hold⟩
  · -- the nearest arrival before the removal was no later
    obtain ⟨n₀, hn₀⟩ : ∃ n₀, x.timeline.nextArrival = some n₀ := by
      rcases hsame with hs | ⟨hold, -⟩
      · exact ⟨n, by rw [← hs]; exact hn⟩
      · exact Option.isSome_iff_exists.1 (Timeline.nextArrival_isSome.2 hold)
    exact Nat.le_trans (hx.noLater a k n₀ ha hn₀) (hx.sorted.nextArrival_remove key hn₀ hn)

end CoreCell

namespace Data

variable {d : Data} {c : Nat}

theorem core_setCore_self (x : CoreCell) (hc : c < d.cores.size) : (d.setCore c x).core c = x := by
  unfold core setCore modifyAt
  rw [Array.getElem?_modify, if_pos rfl, Array.getElem?_eq_getElem hc]
  rfl

theorem size_setCore (c' : Nat) (x : CoreCell) : (d.setCore c' x).cores.size = d.cores.size :=
  Array.size_modify

theorem core_takeDisposal (k : Nat) : (d.takeDisposal k).2.core c = d.core c := by
  obtain ⟨ds, hds⟩ := takeDisposal_frame (d := d) k
  rw [hds]
  rfl

def HandleOk (d : Data) (c : Nat) : Prop := ∀ a k, (d.core c).armed = some (a, k) → d.Cancels k

theorem handleOk_of_unarmed (hn : (d.core c).armed = none) : d.HandleOk c := fun a k ha => by
  rw [hn] at ha
  cases ha

/-- Scheduler core `c` tracks its timeline, and its timer's disposable only cancels that timer. -/
structure CoreTracks (d : Data) (c : Nat) : Prop where
  core : (d.core c).Tracks
  handle : d.HandleOk c

def RemovesTask (d : Data) (c k : Nat) : Prop :=
  d.Released k ∨ ∃ key, d.disposables[k]? = some ⟨false, some (.removeTask c key)⟩

theorem removeTask_cases (d : Data) (c : Nat) (key : TimelineKey) :
    ((d.core c).timeline.remove key).1.isSome = true ∧ ((d.core c).timeline.remove key).2.size = 0 ∧
        d.removeTask c key = (((d.core c).armed.map (·.2)), d.setCore c
          { d.core c with timeline := ((d.core c).timeline.remove key).2, armed := none }) ∨
      ¬ (((d.core c).timeline.remove key).1.isSome = true ∧ ((d.core c).timeline.remove key).2.size = 0) ∧
        d.removeTask c key =
          (none, d.setCore c { d.core c with timeline := ((d.core c).timeline.remove key).2 }) := by
  unfold removeTask
  dsimp only
  split
  · rename_i hcond
    simp only [Bool.and_eq_true, Timeline.isEmpty, beq_iff_eq] at hcond
    exact .inl ⟨hcond.1, hcond.2, rfl⟩
  · rename_i hcond
    simp only [Bool.and_eq_true, Timeline.isEmpty, beq_iff_eq] at hcond
    exact .inr ⟨hcond, rfl⟩

end Data

namespace Data

/-- What cancelling a task of core `c`, from the core `X` among `N` cores, leaves: the core still
tracks its timeline, which lost at most that task, and while tasks remain the timer stays armed
as it was. -/
structure Cancelled (d : Data) (c : Nat) (X : CoreCell) (N : Nat) : Prop where
  tracks : d.CoreTracks c
  size : d.cores.size = N
  sublist : (d.core c).timeline.entries.Sublist X.timeline.entries
  armed : (d.core c).timeline.entries ≠ [] → (d.core c).armed = X.armed

end Data

namespace Heap

variable {h h' : Heap} {c k : Nat}

-- what a disposable does on disposal is kept while the heap follows: it stays, or is released
theorem Follows.cancels (hf : h.Follows h') (hk : h.data.Cancels k) : h'.data.Cancels k := by
  rcases hk with hr | ⟨th, hcell⟩
  · exact .inl ((hf.disposables k _ hr).elim id id)
  · exact (hf.disposables k _ hcell).elim (fun hc => .inr ⟨th, hc⟩) .inl

theorem Follows.removesTask (hf : h.Follows h') (hk : h.data.RemovesTask c k) : h'.data.RemovesTask c k := by
  rcases hk with hr | ⟨key, hcell⟩
  · exact .inl ((hf.disposables k _ hr).elim id id)
  · exact (hf.disposables k _ hcell).elim (fun hc => .inr ⟨key, hc⟩) .inl

theorem Follows.handleOk (hf : h.Follows h') (hok : h.data.HandleOk c)
    (harmed : (h'.data.core c).armed = (h.data.core c).armed) : h'.data.HandleOk c := fun a k ha =>
  hf.cancels (hok a k (harmed ▸ ha))

end Heap

namespace Machine

variable {h : Heap} {c : Nat}

theorem exec_cancel_tracks (hc : h.data.CoreTracks c) (hlt : c < h.data.cores.size)
    (key : TimelineKey) {n : Nat} (hfuel : (exec (release n (.removeTask c key)) h).1 ≠ .error .outOfFuel) :
    (exec (release n (.removeTask c key)) h).1 = .ok () ∧ h.Follows (exec (release n (.removeTask c key)) h).2 ∧
      (exec (release n (.removeTask c key)) h).2.data.Cancelled c (h.data.core c) h.data.cores.size := by
  rcases n with _ | m
  · rw [release] at hfuel
    exact absurd rfl hfuel
  have hsub := (h.data.core c).timeline.remove_sublist key
  rcases Data.removeTask_cases h.data c key with ⟨hrem, hsize, heq⟩ | ⟨hcond, heq⟩
  · -- the last task goes: whatever the disposal does, the core is left empty and unarmed
    set X : CoreCell := { h.data.core c with
      timeline := ((h.data.core c).timeline.remove key).2, armed := none } with hX
    have hempty : X.timeline.entries = [] :=
      List.length_eq_zero_iff.1 ((Timeline.size_eq_length _).symm.trans hsize)
    have hfinal : ∀ D : Data, D.core c = X → D.cores.size = h.data.cores.size →
        D.Cancelled c (h.data.core c) h.data.cores.size :=
      fun D hD hs => ⟨⟨hD ▸ CoreCell.tracks_of_empty hempty rfl, Data.handleOk_of_unarmed (by rw [hD])⟩,
        hs, by rw [hD]; exact hsub, fun hne => absurd (by rw [hD]; exact hempty) hne⟩
    have hX' : (h.data.setCore c X).core c = X := Data.core_setCore_self X hlt
    have hs' : (h.data.setCore c X).cores.size = h.data.cores.size := Data.size_setCore c X
    have hset : h.Follows (h.setData (h.data.setCore c X)) := Heap.follows_of_disposables rfl
    cases harmed : (h.data.core c).armed with
    | none =>
      have hexec : exec (release (m + 1) (.removeTask c key)) h = (.ok (), h.setData (h.data.setCore c X)) := by
        simp only [release, exec_bind, exec_modifyGetData, heq, harmed]
        rfl
      rw [hexec]
      exact ⟨rfl, hset, hfinal _ hX' hs'⟩
    | some ak =>
      obtain ⟨a, k⟩ := ak
      have hdispose : exec (release (m + 1) (.removeTask c key)) h =
          exec (dispose m k) (h.setData (h.data.setCore c X)) := by
        simp only [release, exec_bind, exec_modifyGetData, heq, harmed]
        rfl
      rw [hdispose] at hfuel ⊢
      rcases m with _ | m
      · rw [Machine.dispose] at hfuel
        exact absurd rfl hfuel
      rcases hc.handle a k harmed with hr | ⟨th, hcell⟩
      · rw [exec_dispose_released (h := h.setData (h.data.setCore c X)) hr m]
        exact ⟨rfl, hset, hfinal _ hX' hs'⟩
      · have htake : ((h.data.setCore c X).takeDisposal k).1 = some (.cancelTimer th) := by
          simp [Data.takeDisposal, Data.setCore, hcell]
        rw [exec_dispose_release (h := h.setData (h.data.setCore c X)) htake m] at hfuel ⊢
        rcases m with _ | m
        · rw [release] at hfuel
          exact absurd rfl hfuel
        rw [release, exec_modifyData]
        refine ⟨rfl, hset.trans ((Heap.follows_takeDisposal k).trans (Heap.follows_of_disposables rfl)),
          hfinal _ ?_ ?_⟩
        · show ((h.data.setCore c X).takeDisposal k).2.core c = X
          rw [Data.core_takeDisposal, hX']
        · show ((h.data.setCore c X).takeDisposal k).2.cores.size = h.data.cores.size
          obtain ⟨ds, hds⟩ := Data.takeDisposal_frame (d := h.data.setCore c X) k
          rw [hds]
          exact hs'
  · -- tasks remain: the timer stays armed as it was
    have hexec : exec (release (m + 1) (.removeTask c key)) h = (.ok (), h.setData (h.data.setCore c
        { h.data.core c with timeline := ((h.data.core c).timeline.remove key).2 })) := by
      simp only [release, exec_bind, exec_modifyGetData, heq]
      rfl
    have hcore := Data.core_setCore_self (d := h.data)
      { h.data.core c with timeline := ((h.data.core c).timeline.remove key).2 } hlt
    rw [hexec]
    refine ⟨rfl, Heap.follows_of_disposables rfl, ⟨?_, fun a k ha => ?_⟩, Data.size_setCore c _, ?_, fun _ => ?_⟩
    · show ((h.data.setCore c _).core c).Tracks
      rw [hcore]
      exact hc.core.remove key hcond
    · show (h.data.setCore c _).Cancels k
      rw [Data.cancels_setCore]
      exact hc.handle a k (by rw [← ha]; show _ = ((h.data.setCore c _).core c).armed; rw [hcore])
    · show ((h.data.setCore c _).core c).timeline.entries.Sublist _
      rw [hcore]
      exact hsub
    · show ((h.data.setCore c _).core c).armed = _
      rw [hcore]

end Machine

namespace Cmd

open Machine

variable {c : Nat} (X : CoreCell) (N : Nat)

/-- Making a removal handle for a task leaves every core as it was. -/
theorem contract_removal (P : CoreCell → Prop) (key : TimelineKey) :
    Contract (some <$> newDisposable (some (.removeTask c key)))
      (fun h => P (h.data.core c) ∧ h.data.cores.size = N ∧ h.data.HandleOk c)
      (fun r h => (P (h.data.core c) ∧ h.data.cores.size = N ∧ h.data.HandleOk c) ∧
        ∃ k, r = some k ∧ h.data.disposables[k]? = some ⟨false, some (.removeTask c key)⟩) := by
  refine Contract.map some (contract_modify _ fun h hh => ?_)
  simp only [Data.guard_newDisposable, Answer.ofVal_toVal_nat, Heap.data_setData, Data.core_newDisposable,
    Data.cores_newDisposable]
  refine ⟨⟨hh.1, hh.2.1, fun a k ha => Data.cancels_newDisposable _ (hh.2.2 a k ha)⟩, _, rfl, ?_⟩
  simp [Data.newDisposable]

/-- Running tasks one after another, each of which keeps `P`, keeps `P`. -/
theorem contract_runTasks (P : Heap → Prop) : ∀ ts : List Nat,
    (∀ t ∈ ts, Contract (discard (call t .unit)) P fun _ => P) →
    Contract (forIn ts PUnit.unit fun t _ => discard (call t .unit) >>= fun _ => pure (ForInStep.yield PUnit.unit))
      P fun _ => P
  | [], _ => by
    rw [List.forIn_nil]
    exact contract_pure _ fun _ hh => hh
  | t :: ts, hts => by
    rw [List.forIn_cons]
    refine Contract.bind (show Contract _ P (fun x h => P h ∧ x = .yield PUnit.unit) from
      (hts t List.mem_cons_self).bind fun _ => contract_pure _ fun _ hh => ⟨hh, rfl⟩) fun x => ?_
    refine Contract.assume _ (fun h hh => hh.2) fun hx => ?_
    subst hx
    exact (contract_runTasks P ts fun t' ht' => hts t' (List.mem_cons_of_mem _ ht')).mono
      (fun h hh => hh.1) fun _ _ hh => hh

variable (hc : c < N)
include hc

/-- Releasing the armed timer leaves the core unarmed and otherwise as it was. -/
theorem contract_releaseArmed :
    Contract (releaseArmed c) (fun h => (h.data.core c = X ∧ h.data.cores.size = N) ∧ h.data.HandleOk c)
      (fun _ h => h.data.core c = { X with armed := none } ∧ h.data.cores.size = N) := by
  unfold releaseArmed
  refine Contract.bind (show Contract _ _ (fun armed h => (h.data.core c = { X with armed := none } ∧
      h.data.cores.size = N) ∧ ∀ k, armed = some k → h.data.Cancels k) from
    contract_modify _ fun h hh => ?_) fun armed => ?_
  · obtain ⟨⟨hX, hN⟩, hok⟩ := hh
    simp only [Answer.ofVal_toVal_optionNat, Data.guard_setCore, Heap.data_setData]
    refine ⟨⟨?_, ?_⟩, fun k hk => ?_⟩
    · rw [Data.core_setCore_self _ (hN ▸ hc), hX]
    · rw [Data.size_setCore, hN]
    · obtain ⟨⟨a, k'⟩, ha, rfl⟩ := Option.map_eq_some_iff.1 hk
      exact hok a _ ha
  · cases armed with
    | none => exact contract_pure () fun h hh => hh.1
    | some k =>
      exact (contract_dispose (fun cs => cs[c]?.getD default = { X with armed := none } ∧ cs.size = N)
        k).mono (fun h hh => ⟨hh.2 k rfl, hh.1⟩) fun _ h hh => hh

theorem contract_arm (n : Time) :
    Contract (do
        releaseArmed c
        let timer ← read fun d => (d.core c).timer
        let delay := n.since (← clockUnixTime timer)
        let handle ← modify fun d => d.setTimer (d.now.add delay) (.scheduler c)
        update fun d => d.setCore c { d.core c with armed := some (n, handle) })
      (fun h => (h.data.core c = X ∧ h.data.cores.size = N) ∧ h.data.HandleOk c)
      (fun _ h => (h.data.cores.size = N ∧ h.data.HandleOk c) ∧ (h.data.core c).ArmedAs X (some n)) := by
  refine Contract.bind (contract_releaseArmed X N hc) fun _ => ?_
  refine Contract.read_bind _ Answer.ofVal_toVal_clock fun timer => ?_
  refine Contract.read_bind _ Answer.ofVal_toVal_time fun u => ?_
  refine Contract.bind (show Contract _ _ (fun handle h => (h.data.core c = { X with armed := none } ∧
      h.data.cores.size = N) ∧ h.data.Cancels handle) from contract_modify _ fun h hh => ?_) fun handle => ?_
  · simp only [Data.guard_setTimer, Answer.ofVal_toVal_nat, Heap.data_setData]
    exact ⟨hh.1.1, Data.cancels_setTimer _ _⟩
  · refine contract_modify _ fun h hh => ?_
    simp only [Data.guard_setCore, Heap.data_setData]
    have hcore : (h.data.setCore c { h.data.core c with armed := some (n, handle) }).core c =
        { X with armed := some (n, handle) } := by
      rw [Data.core_setCore_self _ (hh.1.2 ▸ hc), hh.1.1]
    refine ⟨⟨by rw [Data.size_setCore, hh.1.2], fun a k ha => ?_⟩, by rw [hcore], by rw [hcore]; rfl⟩
    rw [hcore] at ha
    cases ha
    exact hh.2

theorem contract_scheduleNextRun :
    Contract (scheduleNextRun c) (fun h => (h.data.core c = X ∧ h.data.cores.size = N) ∧ h.data.HandleOk c)
      (fun _ h => (h.data.cores.size = N ∧ h.data.HandleOk c) ∧ (h.data.core c).ArmedAs X X.rearmAt) := by
  unfold scheduleNextRun
  refine Contract.read_bind _ Answer.ofVal_toVal_optionTime fun next => ?_
  refine Contract.assume (next = X.timeline.nextArrival) (fun h hh => by rw [← hh.2, hh.1.1.1]) fun hnext => ?_
  subst hnext
  cases hn : X.timeline.nextArrival with
  | none =>
    -- no task waits: the timer is released
    refine (contract_releaseArmed X N hc).mono (fun h hh => hh.1) fun _ h hh => ?_
    refine ⟨⟨hh.2, Data.handleOk_of_unarmed (by rw [hh.1])⟩, by rw [hh.1], ?_⟩
    rw [hh.1]
    simp [CoreCell.rearmAt, hn]
  | some n =>
    refine Contract.read_bind _ Answer.ofVal_toVal_optionTime fun armedAt => ?_
    refine Contract.assume (armedAt = X.armed.map (·.1)) (fun h hh => by rw [← hh.2, hh.1.1.1.1]) fun ha => ?_
    subst ha
    cases harmed : X.armed with
    | none =>
      -- nothing is armed: arm the timer for the nearest arrival
      have hrearm : X.rearmAt = some n := by rw [CoreCell.rearmAt_of_unarmed harmed, hn]
      exact (contract_arm X N hc n).mono (fun h hh => hh.1.1) fun _ h hh =>
        ⟨hh.1, hh.2.1, hh.2.2.trans hrearm.symm⟩
    | some ak =>
      obtain ⟨a, k⟩ := ak
      by_cases hlt : n < a
      · -- armed later than the nearest arrival: re-arm for it
        have hrearm : X.rearmAt = some n := by simp [CoreCell.rearmAt, hn, harmed, hlt]
        simp only [Option.map_some, hlt, decide_true]
        exact (contract_arm X N hc n).mono (fun h hh => hh.1.1) fun _ h hh =>
          ⟨hh.1, hh.2.1, hh.2.2.trans hrearm.symm⟩
      · -- armed no later than the nearest arrival: it stays
        simp only [Option.map_some, hlt, decide_false]
        refine contract_pure () fun h hh => ?_
        have hX : h.data.core c = X := hh.1.1.1.1
        refine ⟨⟨hh.1.1.1.2, hh.1.1.2⟩, by rw [hX], ?_⟩
        rw [hX]
        simp [CoreCell.rearmAt, hn, harmed, hlt]

theorem contract_addTask (hX : X.Tracks) (arrival : Time) (task : Nat) :
    Contract (addTask c arrival task) (fun h => (h.data.core c = X ∧ h.data.cores.size = N) ∧ h.data.HandleOk c)
      (fun r h => (h.data.cores.size = N ∧ h.data.HandleOk c) ∧
        (X.disposed = true → r = none ∧ h.data.core c = X) ∧
        (X.disposed = false → (∃ k, r = some k ∧
            h.data.disposables[k]? = some ⟨false, some (.removeTask c (X.timeline.add arrival task).1.1)⟩) ∧
          (h.data.core c).ArmedAs { X with timeline := (X.timeline.add arrival task).2 }
            { X with timeline := (X.timeline.add arrival task).2 }.rearmAt)) := by
  unfold addTask
  refine Contract.read_bind _ Answer.ofVal_toVal_bool fun b => ?_
  refine Contract.assume (b = X.disposed) (fun h hh => by rw [← hh.2, hh.1.1.1]) fun hb => ?_
  subst hb
  rcases Bool.eq_false_or_eq_true X.disposed with hdisp | hdisp
  · -- a disposed scheduler takes no task
    rw [if_pos hdisp]
    refine contract_pure none fun h hh => ⟨⟨hh.1.1.2, hh.1.2⟩, fun _ => ⟨rfl, hh.1.1.1⟩, fun hf => ?_⟩
    exact absurd (hdisp.symm.trans hf) (by decide)
  · rw [if_neg (by rw [hdisp]; exact Bool.false_ne_true)]
    set X' : CoreCell := { X with timeline := (X.timeline.add arrival task).2 } with hX'
    -- the task goes into the timeline, and the insertion answers with its key and whether it is
    -- the nearest
    refine Contract.bind (show Contract _ _ (fun r h => (h.data.core c = X' ∧ h.data.cores.size = N ∧
        h.data.HandleOk c) ∧ r = [.time (X.timeline.add arrival task).1.1.arrival,
          .nat (X.timeline.add arrival task).1.1.seq, .bool (X.timeline.add arrival task).1.2]) from
      contract_modify _ fun h hh => ?_) fun r => ?_
    · obtain ⟨⟨⟨hXc, hN⟩, hok⟩, -⟩ := hh
      rw [hXc]
      dsimp only
      rcases hadd : X.timeline.add arrival task with ⟨⟨key, nearest⟩, t⟩
      rw [hadd] at hX'
      simp only [Data.guard_setCore, Heap.data_setData, Answer.ofVal_toVal_vals]
      refine ⟨⟨by rw [hX']; exact Data.core_setCore_self _ (hN ▸ hc), by rw [Data.size_setCore, hN],
        fun a k ha => ?_⟩, trivial⟩
      rw [Data.core_setCore_self _ (hN ▸ hc)] at ha
      exact hok a k (by rw [hXc]; exact ha)
    · refine Contract.assume _ (fun h hh => hh.2) fun hr => ?_
      subst hr
      dsimp only
      refine Contract.pure_bind ?_
      cases hnear : (X.timeline.add arrival task).1.2 with
      | true =>
        -- the new task is the nearest: re-arm, then hand out its removal handle
        refine Contract.bind ((contract_scheduleNextRun X' N hc).mono
          (fun h hh => ⟨⟨hh.1.1, hh.1.2.1⟩, hh.1.2.2⟩) fun _ h hh => hh) fun _ => ?_
        refine (contract_removal N (fun y => y.ArmedAs X' X'.rearmAt) _).mono
          (fun h hh => ⟨hh.2, hh.1.1, hh.1.2⟩) ?_
        intro r h hh
        exact ⟨⟨hh.1.2.1, hh.1.2.2⟩, fun hf => absurd (hdisp.symm.trans hf) Bool.false_ne_true,
          fun _ => ⟨hh.2, hh.1.1⟩⟩
      | false =>
        -- the nearest task stays: the timer stays where it is armed
        have hrearm : X'.rearmAt = X.armed.map (·.1) := hX.rearmAt_add arrival task hnear
        refine (contract_removal N (fun y => y = X') _).mono (fun h hh => hh.1) ?_
        intro r h hh
        refine ⟨⟨hh.1.2.1, hh.1.2.2⟩, fun hf => absurd (hdisp.symm.trans hf) Bool.false_ne_true,
          fun _ => ⟨hh.2, ?_⟩⟩
        rw [hh.1.1, hrearm]
        exact ⟨rfl, rfl⟩

/-- Disposing a scheduler releases its timer and drops its tasks. -/
theorem contract_disposeScheduler :
    Contract (disposeScheduler c) (fun h => (h.data.core c = X ∧ h.data.cores.size = N) ∧ h.data.HandleOk c)
      (fun _ h => (h.data.cores.size = N ∧ h.data.HandleOk c) ∧
        h.data.core c = { X with timeline := {}, armed := none, disposed := true }) := by
  unfold disposeScheduler
  refine Contract.bind (show Contract _ _ (fun _ h => (h.data.core c = { X with disposed := true } ∧
      h.data.cores.size = N) ∧ h.data.HandleOk c) from contract_modify _ fun h hh => ?_) fun _ => ?_
  · obtain ⟨⟨hX, hN⟩, hok⟩ := hh
    simp only [Data.guard_setCore, Heap.data_setData]
    have hcore := Data.core_setCore_self { h.data.core c with disposed := true } (hN ▸ hc)
    refine ⟨⟨by rw [hcore, hX], by rw [Data.size_setCore, hN]⟩, fun a k ha => ?_⟩
    rw [hcore] at ha
    exact hok a k ha
  · refine Contract.bind (contract_releaseArmed _ N hc) fun _ => ?_
    refine contract_modify _ fun h hh => ?_
    simp only [Data.guard_setCore, Heap.data_setData]
    have hcore := Data.core_setCore_self { h.data.core c with timeline := {} } (hh.2 ▸ hc)
    exact ⟨⟨by rw [Data.size_setCore, hh.2], Data.handleOk_of_unarmed (by rw [hcore, hh.1])⟩,
      by rw [hcore, hh.1]⟩

theorem contract_cancel (hX : X.Tracks) (k : Nat) :
    Contract (dispose k)
      (fun h => (h.data.core c = X ∧ h.data.cores.size = N) ∧ h.data.HandleOk c ∧ h.data.RemovesTask c k)
      (fun _ h => h.data.Cancelled c X N) := by
  rintro β q n h ⟨⟨hXc, hN⟩, hok, hk⟩ hfuel
  rw [dispose_bind] at hfuel ⊢
  obtain ⟨m, rfl⟩ := fuel_of_call hfuel
  rw [exec_runCmd_dispose] at hfuel ⊢
  rcases m with _ | m
  · rw [exec_bind, Machine.dispose] at hfuel
    exact absurd rfl hfuel
  rcases hk with hr | ⟨key, hcell⟩
  · -- released already: nothing happens
    rw [exec_bind, exec_dispose_released hr m]
    exact ⟨(), m + 2, h, ⟨⟨hXc ▸ hX, hok⟩, hN, by rw [hXc], fun _ => by rw [hXc]⟩, .refl h, rfl⟩
  · have htake : (h.data.takeDisposal k).1 = some (.removeTask c key) := by
      simp [Data.takeDisposal, hcell]
    rw [exec_bind, exec_dispose_release htake m] at hfuel ⊢
    -- the removal runs from the heap where the handle is released, with the core as it was
    have hf₁ : h.Follows (h.setData (h.data.takeDisposal k).2) := Heap.follows_takeDisposal k
    have hcore₁ : (h.setData (h.data.takeDisposal k).2).data.core c = X := by
      rw [Heap.data_setData, Data.core_takeDisposal, hXc]
    have hsize₁ : (h.setData (h.data.takeDisposal k).2).data.cores.size = N := by
      obtain ⟨ds, hds⟩ := Data.takeDisposal_frame (d := h.data) k
      rw [Heap.data_setData, hds]
      exact hN
    have hc₁ : (h.setData (h.data.takeDisposal k).2).data.CoreTracks c :=
      ⟨hcore₁ ▸ hX, hf₁.handleOk hok (by rw [hcore₁, hXc])⟩
    rcases hexec : exec (release m (.removeTask c key)) (h.setData (h.data.takeDisposal k).2) with ⟨r, h'⟩
    rw [hexec] at hfuel
    have hrel : (exec (release m (.removeTask c key)) (h.setData (h.data.takeDisposal k).2)).1 ≠
        .error .outOfFuel := by
      rw [hexec]
      rcases r with e | u
      · exact fun he => hfuel (by cases he; rfl)
      · exact fun he => by cases he
    obtain ⟨hok', hf', hcancel⟩ := Machine.exec_cancel_tracks hc₁ (hsize₁ ▸ hc) key hrel
    rw [hexec] at hok' hf' hcancel
    subst hok'
    rw [hcore₁, hsize₁] at hcancel
    exact ⟨(), m + 2, h', hcancel, hf₁.trans hf', rfl⟩

theorem contract_runReadyTasks (F : Heap → Prop) (hF : ∀ h d, F h → F (h.setData d))
    (htask : ∀ t ∈ X.timeline.entries.map (·.2), ∀ Y : CoreCell, Contract (discard (call t .unit))
      (fun h => F h ∧ h.data.core c = Y ∧ h.data.cores.size = N ∧ h.data.HandleOk c)
      fun _ h => F h ∧ h.data.core c = Y ∧ h.data.cores.size = N ∧ h.data.HandleOk c) :
    Contract (runReadyTasks c) (fun h => F h ∧ (h.data.core c = X ∧ h.data.cores.size = N) ∧ h.data.HandleOk c)
      (fun _ h => (h.data.cores.size = N ∧ h.data.HandleOk c) ∧ ∃ u : Time,
        (h.data.core c).ArmedAs { X with timeline := (X.timeline.takeReady u).2, armed := none }
          (X.timeline.takeReady u).2.nextArrival) := by
  unfold runReadyTasks
  -- the timer has fired: the core is no longer armed
  refine Contract.bind (show Contract _ _ (fun _ h => F h ∧ h.data.core c = { X with armed := none } ∧
      h.data.cores.size = N) from contract_modify _ fun h hh => ?_) fun _ => ?_
  · obtain ⟨hFh, ⟨hX, hN⟩, -⟩ := hh
    simp only [Data.guard_setCore]
    refine ⟨hF _ _ hFh, ?_, by rw [Heap.data_setData, Data.size_setCore, hN]⟩
    rw [Heap.data_setData, Data.core_setCore_self _ (hN ▸ hc), hX]
  refine Contract.read_bind _ Answer.ofVal_toVal_clock fun timer => ?_
  refine Contract.read_bind _ Answer.ofVal_toVal_time fun u => ?_
  -- the tasks that have arrived leave the timeline
  set Y : CoreCell := { X with timeline := (X.timeline.takeReady u).2, armed := none } with hY
  refine Contract.bind (show Contract _ _ (fun ts h => (F h ∧ h.data.core c = Y ∧ h.data.cores.size = N ∧
      h.data.HandleOk c) ∧ ts = (X.timeline.takeReady u).1) from contract_modify _ fun h hh => ?_) fun ts => ?_
  · obtain ⟨⟨⟨hFh, hX, hN⟩, -⟩, -⟩ := hh
    rw [hX]
    simp only [Data.guard_setCore, Heap.data_setData, Answer.ofVal_toVal_nats]
    refine ⟨⟨hF _ _ hFh, ?_, by rw [Data.size_setCore, hN], Data.handleOk_of_unarmed ?_⟩, trivial⟩
    · rw [Data.core_setCore_self _ (hN ▸ hc)]
    · rw [Data.core_setCore_self _ (hN ▸ hc)]
  refine Contract.assume _ (fun h hh => hh.2) fun hts => ?_
  subst hts
  refine Contract.bind ((contract_runTasks _ _ fun t ht => htask t (Timeline.mem_takeReady ht) Y).mono
    (fun h hh => hh.1) fun _ _ hh => hh) fun _ => ?_
  refine (contract_scheduleNextRun Y N hc).mono (fun h hh => ⟨⟨hh.2.1, hh.2.2.1⟩, hh.2.2.2⟩) fun _ h hh => ?_
  have hrearm : Y.rearmAt = Y.timeline.nextArrival := CoreCell.rearmAt_of_unarmed rfl
  rw [hrearm] at hh
  exact ⟨hh.1, u, hh.2⟩

end Cmd

end FiberEffects
