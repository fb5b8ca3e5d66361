import FiberEffects.Proofs.Preservation
import FiberEffects.Proofs.Resumption

open Std.Do

set_option mvcgen.warning false

namespace FiberEffects

namespace FutureBook

/-- A future's bookkeeping is well formed: once resolved it lists no observer, and it lists its
observers once each, in the order they registered (their numbers increase), each a watcher
that exists. -/
structure Ok (b : FutureBook) (size : Nat) : Prop where
  cleared : b.resolved = true → b.watchers = []
  ordered : b.watchers.Pairwise (· < ·)
  bounded : ∀ w ∈ b.watchers, w < size

theorem Ok.mono {b : FutureBook} {s s' : Nat} (hb : b.Ok s) (hs : s ≤ s') : b.Ok s' :=
  ⟨hb.cleared, hb.ordered, fun w hw => Nat.lt_of_lt_of_le (hb.bounded w hw) hs⟩

theorem Ok.of_nil {b : FutureBook} {s : Nat} (hw : b.watchers = []) : b.Ok s :=
  ⟨fun _ => hw, by rw [hw]; exact List.Pairwise.nil, fun w h' => by simp [hw] at h'⟩

theorem Ok.sublist {b b' : FutureBook} {s : Nat} (hb : b.Ok s) (hr : b'.resolved = b.resolved)
    (hl : b'.watchers.Sublist b.watchers) : b'.Ok s :=
  ⟨fun h' => List.sublist_nil.1 (hb.cleared (hr ▸ h') ▸ hl), hb.ordered.sublist hl,
    fun w hw => hb.bounded w (hl.subset hw)⟩

/-- The next watcher joining a pending future's list keeps it well formed. -/
theorem Ok.push {b b' : FutureBook} {s : Nat} (hb : b.Ok s) (hp : b.resolved = false)
    (hr : b'.resolved = b.resolved) (hl : b'.watchers = b.watchers ++ [s]) : b'.Ok (s + 1) := by
  rw [hp] at hr
  refine ⟨fun h' => absurd (hr ▸ h') (by simp), ?_, fun w hw => ?_⟩
  · rw [hl]
    refine List.pairwise_append.2 ⟨hb.ordered, List.pairwise_singleton _ _, fun x hx y hy => ?_⟩
    rw [List.mem_singleton.1 hy]
    exact hb.bounded x hx
  · rw [hl] at hw
    rcases List.mem_append.1 hw with hw | hw
    · exact Nat.lt_succ_of_lt (hb.bounded w hw)
    · rw [List.mem_singleton.1 hw]
      exact Nat.lt_succ_self s

end FutureBook

namespace Data

variable {d d' : Data}

theorem Change.futures_cases (hc : d.Change d') :
    (d'.futures = d.futures ∧ d'.watchers = d.watchers ∧ d'.watched = d.watched) ∨
      (∃ w, d' = d.unwatch w) ∨ ∃ k x, d' = (d.addWatcher k x).2 := by
  cases hc with
  | unwatch w => exact .inr (.inl ⟨w, rfl⟩)
  | addWatcher k x => exact .inr (.inr ⟨k, x, rfl⟩)
  | takeDisposal k =>
    obtain ⟨ds, hds⟩ := takeDisposal_frame (d := d) k
    exact .inl (by rw [hds]; exact ⟨rfl, rfl, rfl⟩)
  | groupAdd g m =>
    obtain ⟨gs, hgs⟩ := groupAdd_frame (d := d) g m
    exact .inl (by rw [hgs]; exact ⟨rfl, rfl, rfl⟩)
  | groupTake g =>
    obtain ⟨gs, hgs⟩ := groupTake_frame (d := d) g
    exact .inl (by rw [hgs]; exact ⟨rfl, rfl, rfl⟩)
  | removeTask c key =>
    obtain ⟨cs, hcs⟩ := removeTask_frame (d := d) c key
    exact .inl (by rw [hcs]; exact ⟨rfl, rfl, rfl⟩)
  | newDisposable | newGroup | groupDetach | addObserver | removeObserver | takeObservers
  | cancelTimer | dropFinalizer => exact .inl ⟨rfl, rfl, rfl⟩

theorem futures_takeWatcher (w : Nat) : (d.takeWatcher w).2.futures = d.futures := by
  obtain ⟨ws, hws⟩ := takeWatcher_frame (d := d) w
  rw [hws]

theorem watched_takeWatcher (w : Nat) : (d.takeWatcher w).2.watched = d.watched := by
  obtain ⟨ws, hws⟩ := takeWatcher_frame (d := d) w
  rw [hws]

theorem size_takeWatcher (w : Nat) : (d.takeWatcher w).2.watchers.size = d.watchers.size := by
  unfold takeWatcher
  split
  · exact Array.size_setIfInBounds
  · rfl

theorem relist_eq_some {xs : Array FutureBook} {k j : Nat} {G : List Nat → List Nat}
    {b' : FutureBook}
    (hb' : (modifyAt xs k fun b => if b.resolved then b else { b with watchers := G b.watchers })[j]? =
      some b') :
    ∃ b, xs[j]? = some b ∧ b'.resolved = b.resolved ∧
      (b'.watchers = b.watchers ∨ j = k ∧ b.resolved = false ∧ b'.watchers = G b.watchers) := by
  rw [modifyAt, Array.getElem?_modify] at hb'
  split at hb'
  · rename_i hkj
    obtain ⟨b, hb, rfl⟩ := Option.map_eq_some_iff.1 hb'
    refine ⟨b, hb, ?_⟩
    cases hr : b.resolved <;> simp [hr, hkj]
  · exact ⟨b', hb', rfl, .inl rfl⟩

theorem resolved_relist (xs : Array FutureBook) (k j : Nat) (G : List Nat → List Nat) :
    ((modifyAt xs k fun b => if b.resolved then b else { b with watchers := G b.watchers })[j]?).map
      FutureBook.resolved = (xs[j]?).map FutureBook.resolved := by
  rw [modifyAt, Array.getElem?_modify]
  split
  · rw [Option.map_map]
    congr 1
    funext b
    simp only [Function.comp]
    split <;> rfl
  · rfl

theorem getElem_future_of_mem {k w : Nat} (hw : w ∈ (d.future k).watchers) :
    d.futures[k]? = some (d.future k) := by
  cases hb : d.futures[k]? with
  | none => simp [future, hb] at hw
  | some b => simp [future, hb]

/-- A watcher registered on a pending future is listed last. -/
theorem future_addWatcher {k : Nat} (x : Watcher) (hk : k < d.futures.size)
    (hp : (d.future k).resolved = false) :
    ((d.addWatcher k x).2.future k).watchers = (d.future k).watchers ++ [d.watchers.size] := by
  obtain ⟨b, hb⟩ : ∃ b, d.futures[k]? = some b := ⟨_, Array.getElem?_eq_getElem hk⟩
  have hfb : d.future k = b := by simp [future, hb]
  rw [hfb] at hp ⊢
  simp [future, addWatcher, modifyAt, Array.getElem?_modify, hb, hp]

/-- Stopping a watcher of a pending future takes it off that future's list. -/
theorem future_unwatch {k w : Nat} (hw : d.watched.lookup w = some k)
    (hp : (d.future k).resolved = false) :
    ((d.unwatch w).future k).watchers = (d.future k).watchers.filter (· != w) := by
  rw [unwatch_of_lookup hw]
  cases hb : d.futures[k]? with
  | none => simp [future, dropWatcher, modifyAt, Array.getElem?_modify, futures_takeWatcher, hb]
  | some b =>
    have hfb : d.future k = b := by simp [future, hb]
    rw [hfb] at hp ⊢
    simp [future, dropWatcher, modifyAt, Array.getElem?_modify, futures_takeWatcher, hb, hp]

theorem takeWatcher_spent {w : Nat} (hw : w < d.watchers.size) :
    (d.takeWatcher w).2.watchers[w]? = some none := by
  rw [watchers_takeWatcher, if_pos rfl, Array.getElem?_eq_getElem hw]
  rfl

end Data

namespace Heap

def ResolvedWith (h : Heap) (k : Nat) (e : Effect) : Prop := h.futures[k]? = some (some e)

def Spent (h : Heap) (w : Nat) : Prop := h.data.watchers[w]? = some none

/-- The futures of the heap are well formed: the two records agree on which futures exist and
which resolved, and each future's bookkeeping is well formed. -/
structure FuturesOk (h : Heap) : Prop where
  agree : ∀ k : Nat, (h.data.futures[k]?).map FutureBook.resolved = (h.futures[k]?).map Option.isSome
  books : ∀ (k : Nat) (b : FutureBook), h.data.futures[k]? = some b → b.Ok h.data.watchers.size

/-- How the futures may evolve from `h` to `h'`. -/
structure FuturesFollow (h h' : Heap) : Prop where
  resolved : ∀ (k : Nat) (e : Effect), h.ResolvedWith k e → h'.ResolvedWith k e
  spent : ∀ w : Nat, h.Spent w → h'.Spent w
  grows : h.data.watchers.size ≤ h'.data.watchers.size
  futuresGrow : h.data.futures.size ≤ h'.data.futures.size
  kept : ∀ (k : Nat) (b b' : FutureBook) (w : Nat), h.data.futures[k]? = some b → w ∈ b.watchers →
    h'.data.futures[k]? = some b' → b'.resolved = false → ¬ h'.Spent w → w ∈ b'.watchers
  fresh : ∀ (k : Nat) (b' : FutureBook) (w : Nat), h'.data.futures[k]? = some b' → w ∈ b'.watchers →
    (∃ b, h.data.futures[k]? = some b ∧ w ∈ b.watchers) ∨ h.data.watchers.size ≤ w

variable {h h' h'' : Heap}

theorem FuturesFollow.refl (h : Heap) : h.FuturesFollow h :=
  ⟨fun _ _ he => he, fun _ hw => hw, le_rfl, le_rfl, fun k b b' w hb hw hb' _ _ => by
    rw [hb] at hb'
    cases hb'
    exact hw, fun k b' w hb' hw => .inl ⟨b', hb', hw⟩⟩

theorem FuturesOk.resolvedWith {k : Nat} {b : FutureBook} (hok : h.FuturesOk)
    (hb : h.data.futures[k]? = some b) (hr : b.resolved = true) : ∃ e, h.ResolvedWith k e := by
  have ha := hok.agree k
  rw [hb] at ha
  cases hk : h.futures[k]? with
  | none => rw [hk] at ha; cases ha
  | some x =>
    rw [hk] at ha
    cases x with
    | none => simp [hr] at ha
    | some e => exact ⟨e, hk⟩

theorem FuturesFollow.resolved_flag {k : Nat} {b b' : FutureBook} (hf : h.FuturesFollow h')
    (hok : h.FuturesOk) (hok' : h'.FuturesOk) (hb : h.data.futures[k]? = some b)
    (hr : b.resolved = true) (hb' : h'.data.futures[k]? = some b') : b'.resolved = true := by
  obtain ⟨e, he⟩ := hok.resolvedWith hb hr
  have ha := hok'.agree k
  rw [hb', hf.resolved k e he] at ha
  simpa using ha

theorem FuturesFollow.trans (h₁ : h.FuturesFollow h') (h₂ : h'.FuturesFollow h'')
    (hok' : h'.FuturesOk) (hok'' : h''.FuturesOk) : h.FuturesFollow h'' := by
  refine ⟨fun k e he => h₂.resolved k e (h₁.resolved k e he), fun w hw => h₂.spent w (h₁.spent w hw),
    h₁.grows.trans h₂.grows, h₁.futuresGrow.trans h₂.futuresGrow,
    fun k b b'' w hb hw hb'' hp hs => ?_, fun k b'' w hb'' hw => ?_⟩
  · -- the future exists in the middle heap, still pending, with the observer not spent there
    have hk : k < h'.data.futures.size :=
      Nat.lt_of_lt_of_le (Array.getElem?_eq_some_iff.1 hb).1 h₁.futuresGrow
    obtain ⟨b', hb'⟩ : ∃ b', h'.data.futures[k]? = some b' := ⟨_, Array.getElem?_eq_getElem hk⟩
    have hp' : b'.resolved = false := by
      cases hr : b'.resolved with
      | false => rfl
      | true => rw [h₂.resolved_flag hok' hok'' hb' hr hb''] at hp; cases hp
    have hs' : ¬ h'.Spent w := fun hsp => hs (h₂.spent w hsp)
    exact h₂.kept k b' b'' w hb' (h₁.kept k b b' w hb hw hb' hp' hs') hb'' hp hs
  · rcases h₂.fresh k b'' w hb'' hw with ⟨b', hb', hw'⟩ | hle
    · rcases h₁.fresh k b' w hb' hw' with hin | hle
      · exact .inl hin
      · exact .inr hle
    · exact .inr (h₁.grows.trans hle)

/-- A future still pending in the bookkeeping has no effect. -/
theorem FuturesOk.not_resolvedWith {k : Nat} {e : Effect} (hok : h.FuturesOk)
    (hp : (h.data.future k).resolved = false) : ¬ h.ResolvedWith k e := by
  intro he
  have ha := hok.agree k
  rw [he] at ha
  unfold Data.future at hp
  cases hb : h.data.futures[k]? with
  | none => rw [hb] at ha; cases ha
  | some b =>
    rw [hb] at ha hp
    simp only [Option.map_some, Option.getD_some, Option.isSome_some, Option.some.injEq] at ha hp
    rw [hp] at ha
    cases ha

theorem FuturesOk.size_eq (hok : h.FuturesOk) : h.data.futures.size = h.futures.size := by
  by_contra hne
  rcases Nat.lt_or_gt_of_ne hne with hlt | hlt
  · have ha := hok.agree h.data.futures.size
    rw [Array.getElem?_eq_none le_rfl, Array.getElem?_eq_getElem hlt] at ha
    cases ha
  · have ha := hok.agree h.futures.size
    rw [Array.getElem?_eq_none le_rfl, Array.getElem?_eq_getElem hlt] at ha
    cases ha

def FutureStep (h h' : Heap) : Prop := h'.FuturesOk ∧ h.FuturesFollow h'

theorem FutureStep.refl (hok : h.FuturesOk) : h.FutureStep h := ⟨hok, .refl h⟩

theorem FutureStep.trans (h₁ : h.FutureStep h') (h₂ : h'.FutureStep h'') : h.FutureStep h'' :=
  ⟨h₂.1, h₁.2.trans h₂.2 h₁.1 h₂.1⟩

/-- A change that leaves the futures as they were and at most spends watchers. -/
theorem futureStep_of_spending (hok : h.FuturesOk) (hf : h'.data.futures = h.data.futures)
    (he : h'.futures = h.futures) (hsize : h'.data.watchers.size = h.data.watchers.size)
    (hw : ∀ w : Nat, h'.data.watchers[w]? = h.data.watchers[w]? ∨ h'.data.watchers[w]? = some none) :
    h.FutureStep h' := by
  refine ⟨⟨fun k => by rw [hf, he]; exact hok.agree k, fun k b hb => ?_⟩, ⟨fun k e he' => ?_,
    fun w hs => ?_, hsize.ge, by rw [hf], fun k b b' w hb hw' hb' _ _ => ?_, fun k b' w hb' hw' => ?_⟩⟩
  · rw [hsize]
    exact hok.books k b (hf ▸ hb)
  · unfold ResolvedWith at he' ⊢
    rwa [he]
  · unfold Spent at hs ⊢
    rcases hw w with h₁ | h₁ <;> rw [h₁]
    exact hs
  · rw [hf, hb] at hb'
    cases hb'
    exact hw'
  · exact .inl ⟨b', hf ▸ hb', hw'⟩

theorem futureStep_of_same (hok : h.FuturesOk) (hf : h'.data.futures = h.data.futures)
    (hw : h'.data.watchers = h.data.watchers) (he : h'.futures = h.futures) : h.FutureStep h' :=
  futureStep_of_spending hok hf he (by rw [hw]) fun w => .inl (by rw [hw])

theorem pending_of_resolveFuture {k : Nat} {ws : List Nat}
    (hr : (h.data.resolveFuture k).1 = some ws) :
    (h.data.future k).resolved = false ∧ ws = (h.data.future k).watchers := by
  unfold Data.resolveFuture at hr
  cases hk : (h.data.future k).resolved <;> simp_all

theorem data_resolve {k : Nat} (e : Effect) (hp : (h.data.future k).resolved = false) :
    (h.resolve k e).data =
      { h.data with futures := h.data.futures.modify k fun _ => { resolved := true } } := by
  simp [resolve, Data.resolveFuture, hp, Data.modifyAt]

/-- After a resolution, the future resolved lists no watcher, and every other is as it was. -/
theorem resolve_futures_cases {k j : Nat} {e : Effect} {b' : FutureBook}
    (hp : (h.data.future k).resolved = false) (hb' : (h.resolve k e).data.futures[j]? = some b') :
    (k = j ∧ b'.resolved = true ∧ b'.watchers = []) ∨ (k ≠ j ∧ h.data.futures[j]? = some b') := by
  simp only [data_resolve e hp] at hb'
  rw [Array.getElem?_modify] at hb'
  split at hb'
  · obtain ⟨_, -, rfl⟩ := Option.map_eq_some_iff.1 hb'
    exact .inl ⟨‹_›, rfl, rfl⟩
  · exact .inr ⟨‹_›, hb'⟩

variable (hok : h.FuturesOk)
include hok

theorem futureStep_takeWatcher (w : Nat) : h.FutureStep (h.setData (h.data.takeWatcher w).2) :=
  futureStep_of_spending hok (Data.futures_takeWatcher w) rfl (Data.size_takeWatcher w) fun w' => by
    simp only [data_setData, Data.watchers_takeWatcher]
    split
    · rcases h.data.watchers[w']? with _ | x
      · exact .inl rfl
      · exact .inr rfl
    · exact .inl rfl

/-- Spending a watcher and taking it off the list of a future still pending. -/
theorem futureStep_drop (fut w : Nat) :
    h.FutureStep (h.setData ((h.data.takeWatcher w).2.dropWatcher fut w)) := by
  have hsize : ((h.data.takeWatcher w).2.dropWatcher fut w).watchers.size = h.data.watchers.size :=
    Data.size_takeWatcher w
  have hfut : (h.data.takeWatcher w).2.futures = h.data.futures := Data.futures_takeWatcher w
  -- each future keeps its flag, and keeps its list or drops `w` from it
  have hbook : ∀ (j : Nat) (b' : FutureBook),
      ((h.data.takeWatcher w).2.dropWatcher fut w).futures[j]? = some b' → ∃ b,
        h.data.futures[j]? = some b ∧ b'.resolved = b.resolved ∧
          (b'.watchers = b.watchers ∨ b'.watchers = b.watchers.filter (· != w)) := by
    intro j b' hb'
    obtain ⟨b, hb, hr, hl⟩ := Data.relist_eq_some hb'
    refine ⟨b, hfut ▸ hb, hr, ?_⟩
    rcases hl with hl | ⟨_, _, hl⟩
    · exact .inl hl
    · exact .inr hl
  have hsub : ∀ {b b' : FutureBook}, (b'.watchers = b.watchers ∨
      b'.watchers = b.watchers.filter (· != w)) → b'.watchers.Sublist b.watchers := by
    rintro b b' (hl | hl) <;> rw [hl]
    exact List.filter_sublist
  refine ⟨⟨fun j => ?_, fun j b' hb' => ?_⟩, ⟨fun _ _ he => he, fun x hx => ?_, hsize.ge,
    ?_, fun j b b' x hb hx hb' _ hs => ?_, fun j b' x hb' hx => ?_⟩⟩
  · have ha := Data.resolved_relist (h.data.takeWatcher w).2.futures fut j (List.filter (· != w))
    exact ha.trans (by rw [hfut]; exact hok.agree j)
  · obtain ⟨b, hb, hr, hl⟩ := hbook j b' hb'
    rw [data_setData, hsize]
    exact (hok.books j b hb).sublist hr (hsub hl)
  · unfold Spent at hx ⊢
    rw [data_setData, Data.dropWatcher, Data.watchers_takeWatcher]
    split
    · rw [hx]; rfl
    · exact hx
  · rw [data_setData, Data.dropWatcher, Data.modifyAt, Array.size_modify, hfut]
  · obtain ⟨b₀, hb₀, -, hl⟩ := hbook j b' hb'
    rw [hb] at hb₀
    cases hb₀
    rcases hl with hl | hl
    · rw [hl]; exact hx
    -- an observer other than `w` stays; `w` itself is spent now
    · have hne : x ≠ w := by
        rintro rfl
        exact hs (Data.takeWatcher_spent ((hok.books j b hb).bounded x hx))
      rw [hl, List.mem_filter]
      exact ⟨hx, by simpa using hne⟩
  · obtain ⟨b, hb, -, hl⟩ := hbook j b' hb'
    exact .inl ⟨b, hb, (hsub hl).subset hx⟩

/-- Registering a watcher on future `k`: a new slot, listed last if `k` is pending. -/
theorem futureStep_addWatcher (k : Nat) (x : Watcher) :
    h.FutureStep (h.setData (h.data.addWatcher k x).2) := by
  have hsize : (h.data.addWatcher k x).2.watchers.size = h.data.watchers.size + 1 :=
    Array.size_push _
  -- each future keeps its flag, and keeps its list or lists the new watcher last
  have hbook : ∀ (j : Nat) (b' : FutureBook), (h.data.addWatcher k x).2.futures[j]? = some b' →
      ∃ b, h.data.futures[j]? = some b ∧ b'.resolved = b.resolved ∧ (b'.watchers = b.watchers ∨
        j = k ∧ b.resolved = false ∧ b'.watchers = b.watchers ++ [h.data.watchers.size]) :=
    fun j b' hb' => Data.relist_eq_some (G := (· ++ [h.data.watchers.size])) hb'
  refine ⟨⟨fun j => ?_, fun j b' hb' => ?_⟩, ⟨fun _ _ he => he, fun w hw => ?_,
    by rw [data_setData, hsize]; exact Nat.le_succ _, ?_, fun j b b' w hb hw hb' _ _ => ?_,
    fun j b' w hb' hw => ?_⟩⟩
  · exact (Data.resolved_relist h.data.futures k j (· ++ [h.data.watchers.size])).trans (hok.agree j)
  · obtain ⟨b, hb, hr, hl⟩ := hbook j b' hb'
    rw [data_setData, hsize]
    rcases hl with hl | ⟨-, hp, hl⟩
    · exact ((hok.books j b hb).sublist hr (hl ▸ .refl _)).mono (Nat.le_succ _)
    · exact (hok.books j b hb).push hp hr hl
  · -- the slots that existed are as they were
    unfold Spent at hw ⊢
    rw [data_setData, Data.addWatcher]
    dsimp only
    rw [Array.getElem?_push, if_neg (Nat.ne_of_lt (Array.getElem?_eq_some_iff.1 hw).1)]
    exact hw
  · rw [data_setData, Data.addWatcher]
    exact (Array.size_modify).ge
  · obtain ⟨b₀, hb₀, -, hl⟩ := hbook j b' hb'
    rw [hb] at hb₀
    cases hb₀
    rcases hl with hl | ⟨-, -, hl⟩ <;> rw [hl]
    · exact hw
    · exact List.mem_append_left _ hw
  · obtain ⟨b, hb, -, hl⟩ := hbook j b' hb'
    rcases hl with hl | ⟨-, -, hl⟩ <;> rw [hl] at hw
    · exact .inl ⟨b, hb, hw⟩
    · rcases List.mem_append.1 hw with hw | hw
      · exact .inl ⟨b, hb, hw⟩
      · exact .inr (List.mem_singleton.1 hw).ge

/-- A new future: pending with no observer, or resolved at once. -/
theorem futureStep_pushFuture (r : Option Effect) : h.FutureStep (h.pushFuture r) := by
  have hsize := hok.size_eq
  -- every future that existed is as it was
  have hold : ∀ j : Nat, j < h.data.futures.size → (h.pushFuture r).data.futures[j]? = h.data.futures[j]? :=
    fun j hj => by rw [pushFuture, Array.getElem?_push, if_neg (Nat.ne_of_lt hj)]
  have hnew : ∀ (j : Nat) (b' : FutureBook), (h.pushFuture r).data.futures[j]? = some b' →
      h.data.futures[j]? = some b' ∨ b'.watchers = [] := by
    intro j b' hb'
    rw [pushFuture, Array.getElem?_push] at hb'
    split at hb'
    · cases hb'
      exact .inr rfl
    · exact .inl hb'
  refine ⟨⟨fun j => ?_, fun j b' hb' => ?_⟩, ⟨fun j e he => ?_, fun w hw => hw, le_rfl,
    by simp [pushFuture], fun j b b' w hb hw hb' _ _ => ?_, fun j b' w hb' hw => ?_⟩⟩
  · simp only [pushFuture, Array.getElem?_push, hsize]
    split
    · rfl
    · exact hok.agree j
  · rcases hnew j b' hb' with hb | hw
    · exact hok.books j b' hb
    · exact .of_nil hw
  · unfold ResolvedWith at he ⊢
    rw [pushFuture, Array.getElem?_push, if_neg (Nat.ne_of_lt (Array.getElem?_eq_some_iff.1 he).1)]
    exact he
  · rw [hold j (Array.getElem?_eq_some_iff.1 hb).1, hb] at hb'
    cases hb'
    exact hw
  · rcases hnew j b' hb' with hb | hnil
    · exact .inl ⟨b', hb, hw⟩
    · simp [hnil] at hw

/-- Resolving a pending future: it lists no observer any more, and has its effect. -/
theorem futureStep_resolve {k : Nat} {ws : List Nat} (e : Effect)
    (hr : (h.data.resolveFuture k).1 = some ws) : h.FutureStep (h.resolve k e) := by
  have hp := (pending_of_resolveFuture hr).1
  have hdata : (h.resolve k e).data.futures =
      h.data.futures.modify k fun _ => { resolved := true } := by
    rw [data_resolve e hp]
  have hwatch : (h.resolve k e).data.watchers = h.data.watchers := by rw [data_resolve e hp]
  have hbook : ∀ (j : Nat) (b' : FutureBook), (h.resolve k e).data.futures[j]? = some b' →
      (k = j ∧ b'.resolved = true ∧ b'.watchers = []) ∨ (k ≠ j ∧ h.data.futures[j]? = some b') :=
    fun _ _ hb' => resolve_futures_cases hp hb'
  refine ⟨⟨fun j => ?_, fun j b' hb' => ?_⟩, ⟨fun j e' he => ?_, fun w hw => ?_, by rw [hwatch],
    by rw [hdata, Array.size_modify], fun j b b' w hb hw hb' hp' _ => ?_, fun j b' w hb' hw => ?_⟩⟩
  · have ha := hok.agree j
    have hfut : (h.resolve k e).futures = h.futures.modify k fun _ => some e := rfl
    rw [hdata, hfut, Array.getElem?_modify, Array.getElem?_modify]
    split
    · -- both records gain the resolution of `k`, where both had an entry
      cases hx : h.data.futures[j]? <;> cases hy : h.futures[j]? <;> simp_all
    · exact ha
  · rcases hbook j b' hb' with ⟨-, hr', hw⟩ | ⟨-, hb⟩
    · exact .of_nil hw
    · rw [hwatch]
      exact hok.books j b' hb
  · -- an earlier resolution is of another future
    have hne : k ≠ j := by
      rintro rfl
      exact hok.not_resolvedWith hp he
    unfold ResolvedWith at he ⊢
    simp only [resolve, Array.getElem?_modify, if_neg hne]
    exact he
  · unfold Spent at hw ⊢
    rwa [hwatch]
  · rcases hbook j b' hb' with ⟨-, hr', -⟩ | ⟨-, hb''⟩
    · rw [hr'] at hp'
      cases hp'
    · rw [hb] at hb''
      cases hb''
      exact hw
  · rcases hbook j b' hb' with ⟨-, -, hnil⟩ | ⟨-, hb⟩
    · simp [hnil] at hw
    · exact .inl ⟨b', hb, hw⟩

theorem futureStep_unwatch (w : Nat) : h.FutureStep (h.setData (h.data.unwatch w)) := by
  unfold Data.unwatch
  split
  · exact futureStep_drop hok _ w
  · exact futureStep_takeWatcher hok w

theorem futureStep_change {d : Data} (hc : h.data.Change d) : h.FutureStep (h.setData d) := by
  rcases hc.futures_cases with ⟨hf, hw, -⟩ | ⟨w, rfl⟩ | ⟨k, x, rfl⟩
  · exact futureStep_of_same hok hf hw rfl
  · exact futureStep_unwatch hok w
  · exact futureStep_addWatcher hok k x

omit hok

theorem futuresStable (h₀ : Heap) : Stable (FutureStep h₀) where
  updateBook hs := hs.trans (futureStep_of_same hs.1 rfl rfl rfl)
  updateCode hs := hs.trans (futureStep_of_same hs.1 rfl rfl rfl)
  keep hs hd hc he := hs.trans (futureStep_of_same hs.1 (by rw [hd]) (by rw [hd]) he)
  guard _ hs := hs.trans (futureStep_of_same hs.1 rfl rfl rfl)
  change hs hc := hs.trans (futureStep_change hs.1 hc)
  pushFiber _ _ hs := hs.trans (futureStep_of_same hs.1 rfl rfl rfl)
  pushFuture r hs := hs.trans (futureStep_pushFuture hs.1 r)
  spend w hs := hs.trans (futureStep_takeWatcher hs.1 w)
  resolve e hs hr := hs.trans (futureStep_resolve hs.1 e hr)

theorem futuresOk_default : (default : Heap).FuturesOk :=
  ⟨fun _ => rfl, fun k b hb => by simp [show (default : Heap).data.futures = #[] from rfl] at hb⟩

def Live (h : Heap) (w : Nat) : Prop := ∃ x, h.data.watchers[w]? = some (some x)

theorem Live.lt {w : Nat} (hw : h.Live w) : w < h.data.watchers.size := by
  obtain ⟨x, hx⟩ := hw
  exact (Array.getElem?_eq_some_iff.1 hx).1

def ListsLive (h : Heap) : Prop :=
  ∀ (k : Nat) (b : FutureBook) (w : Nat), h.data.futures[k]? = some b → w ∈ b.watchers →
    h.Live w ∧ h.data.watched.lookup w = some k

def Unlisted (ws : List Nat) (h : Heap) : Prop :=
  ∀ w ∈ ws, w < h.data.watchers.size ∧
    ∀ (k : Nat) (b : FutureBook), h.data.futures[k]? = some b → w ∉ b.watchers

theorem listsLive_default : (default : Heap).ListsLive := fun k b w hb => by
  simp [show (default : Heap).data.futures = #[] from rfl] at hb

theorem Unlisted.follow {ws : List Nat} (hu : h.Unlisted ws) (hf : h.FuturesFollow h') :
    h'.Unlisted ws := by
  intro w hw
  obtain ⟨hlt, hnot⟩ := hu w hw
  refine ⟨Nat.lt_of_lt_of_le hlt hf.grows, fun k b' hb' hw' => ?_⟩
  rcases hf.fresh k b' w hb' hw' with ⟨b, hb, hwb⟩ | hle
  · exact hnot k b hb hwb
  · exact absurd hlt (Nat.not_lt.2 hle)

theorem Unlisted.step {ws : List Nat} (hu : h.FuturesOk ∧ h.Unlisted ws) (hs : h.FutureStep h') :
    h'.FuturesOk ∧ h'.Unlisted ws :=
  ⟨hs.1, hu.2.follow hs.2⟩

theorem unlistedStable (ws : List Nat) : Stable fun h => h.FuturesOk ∧ h.Unlisted ws where
  updateBook hu := Unlisted.step hu ((futuresStable _).updateBook (.refl hu.1))
  updateCode hu := Unlisted.step hu ((futuresStable _).updateCode (.refl hu.1))
  keep hu hd hc he := Unlisted.step hu ((futuresStable _).keep (.refl hu.1) hd hc he)
  guard d hu := Unlisted.step hu ((futuresStable _).guard d (.refl hu.1))
  change hu hc := Unlisted.step hu ((futuresStable _).change (.refl hu.1) hc)
  pushFiber b c hu := Unlisted.step hu ((futuresStable _).pushFiber b c (.refl hu.1))
  pushFuture r hu := Unlisted.step hu ((futuresStable _).pushFuture r (.refl hu.1))
  spend w hu := Unlisted.step hu ((futuresStable _).spend w (.refl hu.1))
  resolve e hu hr := Unlisted.step hu ((futuresStable _).resolve e (.refl hu.1) hr)

namespace ListsLive

variable {h : Heap} (hl : h.ListsLive)
include hl

theorem of_same (hf : h'.data.futures = h.data.futures) (hw : h'.data.watchers = h.data.watchers)
    (hd : h'.data.watched = h.data.watched) : h'.ListsLive := by
  intro k b w hb hwb
  rw [hf] at hb
  obtain ⟨⟨x, hx⟩, hk⟩ := hl k b w hb hwb
  exact ⟨⟨x, by rw [hw]; exact hx⟩, by rw [hd]; exact hk⟩

theorem of_spending (w : Nat)
    (hlist : ∀ (k : Nat) (b' : FutureBook) (w' : Nat), h'.data.futures[k]? = some b' →
      w' ∈ b'.watchers → w' ≠ w ∧ ∃ b, h.data.futures[k]? = some b ∧ w' ∈ b.watchers)
    (hw : ∀ w', w' ≠ w → h'.data.watchers[w']? = h.data.watchers[w']?)
    (hd : h'.data.watched = h.data.watched) : h'.ListsLive := by
  intro k b' w' hb' hwb'
  obtain ⟨hne, b, hb, hwb⟩ := hlist k b' w' hb' hwb'
  obtain ⟨⟨x, hx⟩, hk⟩ := hl k b w' hb hwb
  exact ⟨⟨x, by rw [hw w' hne]; exact hx⟩, by rw [hd]; exact hk⟩

/-- Telling a watcher that no future lists. -/
theorem takeWatcher {w : Nat}
    (hw : ∀ (k : Nat) (b : FutureBook), h.data.futures[k]? = some b → w ∉ b.watchers) :
    (h.setData (h.data.takeWatcher w).2).ListsLive := by
  refine hl.of_spending w (fun k b' w' hb' hwb' => ?_) (fun w' hne => ?_) (Data.watched_takeWatcher w)
  · rw [data_setData, Data.futures_takeWatcher] at hb'
    exact ⟨fun he => hw k b' hb' (he ▸ hwb'), b', hb', hwb'⟩
  · rw [data_setData, Data.watchers_takeWatcher, if_neg (Ne.symm hne)]

/-- Stopping a watcher: it leaves the list of the future it watches, the only one that lists it. -/
theorem unwatch (hok : h.FuturesOk) (w : Nat) : (h.setData (h.data.unwatch w)).ListsLive := by
  unfold Data.unwatch
  split
  · rename_i k₀ hk₀
    refine hl.of_spending w (fun k b' w' hb' hwb' => ?_) (fun w' hne => ?_) (Data.watched_takeWatcher w)
    · simp only [data_setData, Data.dropWatcher, Data.modifyAt, Data.futures_takeWatcher] at hb'
      rw [Array.getElem?_modify] at hb'
      split at hb'
      · -- the list of `k₀`: if pending it lost `w`, and if resolved it lists nothing
        rename_i hkk
        subst hkk
        obtain ⟨b, hb, rfl⟩ := Option.map_eq_some_iff.1 hb'
        cases hr : b.resolved
        · simp only [hr, Bool.false_eq_true, if_false, List.mem_filter, bne_iff_ne, ne_eq] at hwb'
          exact ⟨hwb'.2, b, hb, hwb'.1⟩
        · rw [hr, if_pos rfl, (hok.books _ b hb).cleared hr] at hwb'
          cases hwb'
      · -- any other list is as it was, and does not list `w`, which watches `k₀`
        rename_i hkk
        refine ⟨?_, b', hb', hwb'⟩
        rintro rfl
        obtain ⟨-, hk⟩ := hl k b' w' hb' hwb'
        rw [hk₀] at hk
        exact hkk (Option.some.inj hk)
    · show (h.data.takeWatcher w).2.watchers[w']? = _
      rw [Data.watchers_takeWatcher, if_neg (Ne.symm hne)]
  · rename_i hk₀
    refine hl.of_spending w (fun k b' w' hb' hwb' => ?_) (fun w' hne => ?_) (Data.watched_takeWatcher w)
    · rw [data_setData, Data.futures_takeWatcher] at hb'
      refine ⟨?_, b', hb', hwb'⟩
      rintro rfl
      obtain ⟨-, hk⟩ := hl k b' w' hb' hwb'
      rw [hk₀] at hk
      cases hk
    · rw [data_setData, Data.watchers_takeWatcher, if_neg (Ne.symm hne)]

/-- Registering a watcher on `k`: it is listed by `k` only, as watching `k`. -/
theorem addWatcher (k : Nat) (x : Watcher) : (h.setData (h.data.addWatcher k x).2).ListsLive := by
  intro j b' w hb' hw
  obtain ⟨b, hb, -, hlist⟩ := Data.relist_eq_some (G := (· ++ [h.data.watchers.size])) hb'
  -- the watchers listed before keep their slots and the future they watch
  have hold : ∀ w, w ∈ b.watchers → (h.setData (h.data.addWatcher k x).2).Live w ∧
      (h.data.addWatcher k x).2.watched.lookup w = some j := by
    intro w hw
    obtain ⟨⟨y, hy⟩, hj⟩ := hl j b w hb hw
    have hne := Nat.ne_of_lt (Array.getElem?_eq_some_iff.1 hy).1
    refine ⟨⟨y, ?_⟩, ?_⟩
    · simp [Data.addWatcher, Array.getElem?_push, hne, hy]
    · simp [Data.addWatcher, List.lookup_cons, beq_eq_false_iff_ne.2 hne, hj]
  rcases hlist with hl' | ⟨rfl, -, hl'⟩
  · exact hold w (hl' ▸ hw)
  · rw [hl'] at hw
    rcases List.mem_append.1 hw with hw | hw
    · exact hold w hw
    · rw [List.mem_singleton.1 hw]
      exact ⟨⟨x, by simp [Data.addWatcher]⟩, by simp [Data.addWatcher]⟩

theorem pushFuture (r : Option Effect) : (h.pushFuture r).ListsLive := by
  intro j b' w hb' hw
  simp only [Heap.pushFuture] at hb'
  rw [Array.getElem?_push] at hb'
  split at hb'
  · cases hb'
    cases hw
  · exact hl j b' w hb' hw

theorem resolve {k : Nat} {ws : List Nat} (e : Effect)
    (hr : (h.data.resolveFuture k).1 = some ws) :
    (h.resolve k e).ListsLive ∧ (h.resolve k e).Unlisted ws := by
  obtain ⟨hp, rfl⟩ := pending_of_resolveFuture hr
  have hdata := data_resolve e hp
  refine ⟨fun j b' w hb' hw => ?_, fun w hw => ?_⟩
  · rcases resolve_futures_cases hp hb' with ⟨-, -, hnil⟩ | ⟨-, hb⟩
    · rw [hnil] at hw
      cases hw
    · obtain ⟨⟨x, hx⟩, hj⟩ := hl j b' w hb hw
      exact ⟨⟨x, by rw [hdata]; exact hx⟩, by rw [hdata]; exact hj⟩
  · obtain ⟨hlive, hkw⟩ := hl k _ w (Data.getElem_future_of_mem hw) hw
    refine ⟨by rw [hdata]; exact hlive.lt, fun j b' hb' hwb' => ?_⟩
    rcases resolve_futures_cases hp hb' with ⟨-, -, hnil⟩ | ⟨hne, hb⟩
    · rw [hnil] at hwb'
      cases hwb'
    · obtain ⟨-, hj⟩ := hl j b' w hb hwb'
      rw [hkw] at hj
      exact hne (Option.some.inj hj)

theorem change (hok : h.FuturesOk) {d : Data} (hc : h.data.Change d) : (h.setData d).ListsLive := by
  rcases hc.futures_cases with ⟨hf, hw, hd⟩ | ⟨w, rfl⟩ | ⟨k, x, rfl⟩
  · exact hl.of_same hf hw hd
  · exact hl.unwatch hok w
  · exact hl.addWatcher k x

end ListsLive

theorem liveStable (h₀ : Heap) :
    StableFor (fun h => h₀.FutureStep h ∧ h.ListsLive) fun ws h => h.FuturesOk ∧ h.Unlisted ws where
  updateBook hs := ⟨(futuresStable h₀).updateBook hs.1, hs.2.of_same rfl rfl rfl⟩
  updateCode hs := ⟨(futuresStable h₀).updateCode hs.1, hs.2.of_same rfl rfl rfl⟩
  keep hs hd hc he :=
    ⟨(futuresStable h₀).keep hs.1 hd hc he, hs.2.of_same (by rw [hd]) (by rw [hd]) (by rw [hd])⟩
  guard d hs := ⟨(futuresStable h₀).guard d hs.1, hs.2.of_same rfl rfl rfl⟩
  change hs hc := ⟨(futuresStable h₀).change hs.1 hc, hs.2.change hs.1.1 hc⟩
  pushFiber b c hs := ⟨(futuresStable h₀).pushFiber b c hs.1, hs.2.of_same rfl rfl rfl⟩
  pushFuture r hs := ⟨(futuresStable h₀).pushFuture r hs.1, hs.2.pushFuture r⟩
  spend hs hn := ⟨(futuresStable h₀).spend _ hs.1, hs.2.takeWatcher (hn.2 _ List.mem_cons_self).2⟩
  resolve e hs hr :=
    ⟨⟨(futuresStable h₀).resolve e hs.1 hr, (hs.2.resolve e hr).1⟩,
      (futureStep_resolve hs.1.1 e hr).1, (hs.2.resolve e hr).2⟩
  told ws := unlistedStable ws
  tail hn := ⟨hn.1, fun w hw => hn.2 w (List.mem_cons_of_mem _ hw)⟩

end Heap

namespace Machine

variable {h : Heap}

theorem exec_completeFuture_resolved {k : Nat} (e : Effect) (m : Nat)
    (hr : (h.data.future k).resolved = true) :
    exec (completeFuture (m + 1) k e) h = (.ok false, h) := by
  have hn : h.data.resolveFuture k = (none, h.data) := by simp [Data.resolveFuture, hr]
  simp only [completeFuture, exec_bind, exec_modifyGetData, hn]
  rfl

theorem exec_completeFuture_pending {k : Nat} (e : Effect) (m : Nat)
    (hp : (h.data.future k).resolved = false) :
    exec (completeFuture (m + 1) k e) h =
      exec (notify m (h.data.future k).watchers e >>= fun _ => pure true) (h.resolve k e) := by
  have hs : (h.data.resolveFuture k).1 = some (h.data.future k).watchers := by
    simp [Data.resolveFuture, hp]
  simp only [completeFuture, exec_bind, exec_modifyGetData, hs]
  rfl

theorem exec_keepEffect (m : Nat) (e : Effect) :
    exec (perform (m + 1) (.keepEffect e)) h =
      (.ok (.effect h.effects.size), { h with effects := h.effects.push e }) := by
  rw [perform]
  rfl

theorem exec_notify_callback {w cb : Nat} (m : Nat) (ws : List Nat) (e : Effect)
    (hw : h.data.watchers[w]? = some (some (.callback cb))) :
    exec (notify (m + 1) (w :: ws) e) h =
      exec (perform m (.keepEffect e) >>= fun v => perform m (.call cb v) >>= fun _ => notify m ws e)
        (h.setData (h.data.takeWatcher w).2) := by
  have ht : (h.data.takeWatcher w).1 = some (.callback cb) := by simp [Data.takeWatcher, hw]
  simp only [notify, exec_bind, exec_modifyGetData, ht, discard_eq, map_eq_pure_bind, bind_assoc,
    pure_bind]

/-- With the fuel to keep it, the callback is called with the effect, in a slot of its own. -/
theorem exec_notify_callback_effect {w cb : Nat} (m : Nat) (ws : List Nat) (e : Effect)
    (hw : h.data.watchers[w]? = some (some (.callback cb))) :
    exec (notify (m + 2) (w :: ws) e) h =
      exec (perform (m + 1) (.call cb (.effect h.effects.size)) >>= fun _ => notify (m + 1) ws e)
        { h.setData (h.data.takeWatcher w).2 with effects := h.effects.push e } := by
  rw [exec_notify_callback (m + 1) ws e hw, exec_bind, exec_keepEffect]
  rfl

theorem exec_notify_resume {w f : Nat} (m : Nat) (ws : List Nat) (e : Effect)
    (hw : h.data.watchers[w]? = some (some (.resume f))) :
    exec (notify (m + 1) (w :: ws) e) h =
      exec (resume m f e >>= fun _ => notify m ws e) (h.setData (h.data.takeWatcher w).2) := by
  have ht : (h.data.takeWatcher w).1 = some (.resume f) := by simp [Data.takeWatcher, hw]
  simp only [notify, exec_bind, exec_modifyGetData, ht]

theorem exec_perform_watch_resolved {k : Nat} {e : Effect} (cb m : Nat)
    (hr : h.futures[k]? = some (some e)) :
    exec (perform (m + 2) (.watch k cb)) h =
      (.ok (.effect h.effects.size), { h with effects := h.effects.push e }) := by
  conv_lhs => rw [perform]
  simp only [exec_bind, exec_get, hr]
  exact exec_keepEffect m e

theorem exec_perform_watch_pending {k : Nat} (cb m : Nat) (hp : ∀ e, h.futures[k]? ≠ some (some e)) :
    exec (perform (m + 1) (.watch k cb)) h =
      (.ok (.nat h.data.watchers.size), h.setData (h.data.addWatcher k (.callback cb)).2) := by
  rw [perform]
  rcases hk : h.futures[k]? with _ | _ | e
  · simp only [exec_bind, exec_get, hk, exec_map, exec_modifyGetData]
    rfl
  · simp only [exec_bind, exec_get, hk, exec_map, exec_modifyGetData]
    rfl
  · exact absurd hk (hp e)

theorem exec_watch_resolved {k : Nat} {e : Effect} (cb m : Nat) (hr : h.futures[k]? = some (some e)) :
    exec (runCmd (m + 3) (Cmd.watch k cb)) h =
      exec (perform (m + 1) (.call cb (.effect h.effects.size)) >>= fun _ =>
        runCmd (m + 1) (Cmd.newDisposable none)) { h with effects := h.effects.push e } := by
  conv_lhs => simp only [Cmd.watch, Prog.ask, bind, Prog.bind]; rw [runCmd]
  rw [exec_bind, exec_perform_watch_resolved cb m hr]
  show exec (runCmd (m + 2) (Prog.call (.call cb (.effect h.effects.size)) fun _ =>
    Cmd.newDisposable none)) _ = _
  rw [runCmd]

theorem exec_watch_pending {k : Nat} (cb m : Nat) (hp : ∀ e, h.futures[k]? ≠ some (some e)) :
    exec (runCmd (m + 3) (Cmd.watch k cb)) h =
      exec (runCmd (m + 2) (Cmd.newDisposable (some (.unwatch h.data.watchers.size))))
        (h.setData (h.data.addWatcher k (.callback cb)).2) := by
  conv_lhs => simp only [Cmd.watch, Prog.ask, bind, Prog.bind]; rw [runCmd]
  rw [exec_bind, exec_perform_watch_pending cb (m + 1) hp]
  rfl

theorem notify_spends (e : Effect) : ∀ (ws : List Nat) (m : Nat) {h : Heap}, h.FuturesOk →
    (∀ w ∈ ws, w < h.data.watchers.size) → (exec (notify m ws e) h).1 = .ok () →
    ∀ w ∈ ws, (exec (notify m ws e) h).2.Spent w
  | [], _, _, _, _, _ => fun _ hw => absurd hw List.not_mem_nil
  | _ :: _, 0, _, _, _, hres => by simp [notify, exec] at hres
  | w :: ws, m + 1, h, hok, hlt, hres => by
    -- once `w` is spent, the rest of the list is told from a heap the futures reached
    have tail : ∀ {h₃ : Heap}, h.FutureStep h₃ → h₃.Spent w → (exec (notify m ws e) h₃).1 = .ok () →
        ∀ w' ∈ w :: ws, (exec (notify m ws e) h₃).2.Spent w' := by
      intro h₃ hs₃ hsp hres₃
      have hstep : h₃.FutureStep (exec (notify m ws e) h₃).2 :=
        ((preserving m (Heap.futuresStable h₃).forAll).notify ws e).exec (.refl hs₃.1) trivial
          (by rw [hres₃]; exact fun he => by cases he)
      have hlt₃ : ∀ w' ∈ ws, w' < h₃.data.watchers.size := fun w' hw' =>
        Nat.lt_of_lt_of_le (hlt w' (List.mem_cons_of_mem w hw')) hs₃.2.grows
      intro w' hw'
      rcases List.mem_cons.1 hw' with rfl | hw'
      · exact hstep.2.spent w' hsp
      · exact notify_spends e ws m hs₃.1 hlt₃ hres₃ w' hw'
    have hw : w < h.data.watchers.size := hlt w List.mem_cons_self
    have htake := Heap.futureStep_takeWatcher hok w
    have hsp : (h.setData (h.data.takeWatcher w).2).Spent w := Data.takeWatcher_spent hw
    rcases hx : h.data.watchers[w]? with _ | _ | ⟨cb⟩ | ⟨f⟩
    · rw [Array.getElem?_eq_getElem hw] at hx
      cases hx
    · rw [exec_notify_stopped m ws e hx] at hres ⊢
      exact tail (.refl hok) hx hres
    · -- the effect is kept, then the callback runs, each from where the other left off
      rw [exec_notify_callback m ws e hx] at hres ⊢
      obtain ⟨_, h₃, hs₃, heq⟩ :=
        ((preserving m (Heap.futuresStable _).forAll).perform _).exec_bind (.refl htake.1) hres
      rw [heq] at hres ⊢
      obtain ⟨_, h₄, hs₄, heq⟩ :=
        ((preserving m (Heap.futuresStable _).forAll).perform _).exec_bind (.refl hs₃.1) hres
      rw [heq] at hres ⊢
      exact tail ((htake.trans hs₃).trans hs₄) (hs₄.2.spent w (hs₃.2.spent w hsp)) hres
    · rw [exec_notify_resume m ws e hx] at hres ⊢
      obtain ⟨_, h₃, hs₃, heq⟩ :=
        ((preserving m (Heap.futuresStable _).forAll).resume _ _).exec_bind (.refl htake.1) hres
      rw [heq] at hres ⊢
      exact tail (htake.trans hs₃) (hs₃.2.spent w hsp) hres

/-- Completing a pending future that exists resolves it with the effect, for good. -/
theorem completeFuture_pending {k : Nat} (e : Effect) (m : Nat) (hok : h.FuturesOk)
    (hk : k < h.futures.size) (hp : (h.data.future k).resolved = false)
    (hfuel : (exec (completeFuture (m + 1) k e) h).1 ≠ .error .outOfFuel) :
    h.FutureStep (exec (completeFuture (m + 1) k e) h).2 ∧
      (exec (completeFuture (m + 1) k e) h).2.ResolvedWith k e ∧
      ∀ b, (exec (completeFuture (m + 1) k e) h).1 = .ok b →
        b = true ∧ ∀ w ∈ (h.data.future k).watchers, (exec (completeFuture (m + 1) k e) h).2.Spent w := by
  have hr : (h.data.resolveFuture k).1 = some (h.data.future k).watchers := by
    simp [Data.resolveFuture, hp]
  have hres := Heap.futureStep_resolve hok e hr
  have hwith : (h.resolve k e).ResolvedWith k e := by
    simp [Heap.ResolvedWith, Heap.resolve, Array.getElem?_modify, Array.getElem?_eq_getElem hk]
  -- the watchers the future listed exist
  have hlt : ∀ w ∈ (h.data.future k).watchers, w < (h.resolve k e).data.watchers.size := by
    intro w hw
    have hb : h.data.futures[k]? = some (h.data.future k) := by
      rw [Data.future, Array.getElem?_eq_getElem (hok.size_eq ▸ hk)]
      rfl
    exact Nat.lt_of_lt_of_le ((hok.books k _ hb).bounded w hw) hres.2.grows
  rw [exec_completeFuture_pending e m hp, exec_bind] at hfuel ⊢
  rcases hn : exec (notify m (h.data.future k).watchers e) (h.resolve k e) with ⟨r, h₂⟩
  rw [hn] at hfuel
  have hf : (exec (notify m (h.data.future k).watchers e) (h.resolve k e)).1 ≠ .error .outOfFuel := by
    rw [hn]
    cases r with
    | ok => exact fun he => by cases he
    | error => simpa using hfuel
  have hstep := ((preserving m (Heap.futuresStable _).forAll).notify _ e).exec (.refl hres.1) trivial hf
  rw [hn] at hstep
  cases r with
  | error => exact ⟨hres.trans hstep, hstep.2.resolved k e hwith, fun b hb => by cases hb⟩
  | ok =>
    refine ⟨hres.trans hstep, hstep.2.resolved k e hwith, fun b hb => ⟨?_, ?_⟩⟩
    · cases hb
      rfl
    · have hspent := notify_spends e _ m hres.1 hlt (by rw [hn])
      rwa [hn] at hspent

/-- A future resolves once and tells each of its watchers at most once, with its effect. -/
theorem future_resolves_once {α : Type} {h : Heap} (n : Nat) (q : Cmd α) (hok : h.FuturesOk)
    (hlive : h.ListsLive) (hfuel : (exec (runCmd n q) h).1 ≠ .error .outOfFuel) :
    let h' := (exec (runCmd n q) h).2
    (h.FutureStep h' ∧ h'.ListsLive) ∧
      (∀ k e m, (h'.data.future k).resolved = true →
        exec (completeFuture (m + 1) k e) h' = (.ok false, h')) ∧
      (∀ k e m, k < h'.futures.size → (h'.data.future k).resolved = false →
        (exec (completeFuture (m + 1) k e) h').1 ≠ .error .outOfFuel →
        h'.FutureStep (exec (completeFuture (m + 1) k e) h').2 ∧
          (exec (completeFuture (m + 1) k e) h').2.ResolvedWith k e ∧
          ∀ b, (exec (completeFuture (m + 1) k e) h').1 = .ok b →
            b = true ∧ ∀ w ∈ (h'.data.future k).watchers,
              (exec (completeFuture (m + 1) k e) h').2.Spent w) ∧
      (∀ k e cb m, h'.ResolvedWith k e →
        exec (runCmd (m + 3) (Cmd.watch k cb)) h' =
          exec (perform (m + 1) (.call cb (.effect h'.effects.size)) >>= fun _ =>
            runCmd (m + 1) (Cmd.newDisposable none)) { h' with effects := h'.effects.push e }) ∧
      (∀ k cb m, k < h'.futures.size → (h'.data.future k).resolved = false →
        exec (runCmd (m + 3) (Cmd.watch k cb)) h' =
          exec (runCmd (m + 2) (Cmd.newDisposable (some (.unwatch h'.data.watchers.size))))
            (h'.setData (h'.data.addWatcher k (.callback cb)).2) ∧
        ((h'.data.addWatcher k (.callback cb)).2.future k).watchers =
          (h'.data.future k).watchers ++ [h'.data.watchers.size]) ∧
      (∀ k w, w ∈ (h'.data.future k).watchers → (h'.data.future k).resolved = false →
        ((h'.data.unwatch w).future k).watchers = (h'.data.future k).watchers.filter (· != w) ∧
          (h'.setData (h'.data.unwatch w)).Spent w) ∧
      ∀ (h'' : Heap) w m ws e,
        (h''.Spent w → exec (notify (m + 1) (w :: ws) e) h'' = exec (notify m ws e) h'') ∧
        ∀ cb, h''.data.watchers[w]? = some (some (.callback cb)) →
          (h''.setData (h''.data.takeWatcher w).2).Spent w ∧
            exec (notify (m + 2) (w :: ws) e) h'' =
              exec (perform (m + 1) (.call cb (.effect h''.effects.size)) >>= fun _ =>
                notify (m + 1) ws e)
                { h''.setData (h''.data.takeWatcher w).2 with effects := h''.effects.push e } := by
  intro h'
  have hs : h.FutureStep h' ∧ h'.ListsLive :=
    exec_runCmd_preserves (Heap.liveStable h) n q ⟨.refl hok, hlive⟩ hfuel
  have hok' := hs.1.1
  refine ⟨hs, fun k e m hr => exec_completeFuture_resolved e m hr,
    fun k e m hk hp hf => completeFuture_pending e m hok' hk hp hf,
    fun k e cb m hr => exec_watch_resolved cb m hr, fun k cb m hk hp => ⟨?_, ?_⟩,
    fun k w hw hp => ?_, fun h'' w m ws e => ⟨fun hw => exec_notify_stopped m ws e hw,
      fun cb hw => ⟨Data.takeWatcher_spent (Array.getElem?_eq_some_iff.1 hw).1,
        exec_notify_callback_effect m ws e hw⟩⟩⟩
  · exact exec_watch_pending cb m fun e => hok'.not_resolvedWith hp
  · exact Data.future_addWatcher _ (by rw [hok'.size_eq]; exact hk) hp
  · -- a listed watcher is live, and watches the future that lists it
    obtain ⟨hlv, hkw⟩ := hs.2 k _ w (Data.getElem_future_of_mem hw) hw
    refine ⟨Data.future_unwatch hkw hp, ?_⟩
    show (h'.data.unwatch w).watchers[w]? = some none
    rw [Data.watchers_unwatch]
    exact Data.takeWatcher_spent hlv.lt

def watchThenCompleteTwice : Cmd Val :=
  Prog.call (Request.newFuture none) fun _ =>
  Prog.call (Request.keepFn fun _ => .done .unit) fun _ =>
  Prog.call (Request.watch 0 0) fun _ =>
  Prog.call (Request.complete 0 (Effect.of .unit)) fun _ =>
  Prog.call (Request.complete 0 (Effect.of .unit)) fun v => .done v

theorem watchThenCompleteTwice_futures :
    (default : Heap).FuturesOk ∧ (default : Heap).ListsLive ∧
      (exec (runCmd 40 watchThenCompleteTwice) default).1 ≠ .error .outOfFuel ∧
      (default : Heap).FutureStep (exec (runCmd 40 watchThenCompleteTwice) default).2 := by
  have hok : (exec (runCmd 40 watchThenCompleteTwice) default).1.toBool = true := by
    decide +kernel
  have hfuel : (exec (runCmd 40 watchThenCompleteTwice) default).1 ≠ .error .outOfFuel :=
    Machine.ne_outOfFuel_of_toBool hok
  exact ⟨Heap.futuresOk_default, Heap.listsLive_default, hfuel,
    (future_resolves_once 40 watchThenCompleteTwice Heap.futuresOk_default Heap.listsLive_default
      hfuel).1.1⟩

end Machine

end FiberEffects
