import FiberEffects.Proofs.LoopInvariant

open Std.Do

set_option mvcgen.warning false

namespace FiberEffects

namespace Release

def stops : Release → Nat → Bool
  | .unwatch w', w => w' == w
  | _, _ => false

end Release

namespace FiberBook

def InTurn (b : FiberBook) (c : FiberCode) : Prop :=
  b.started = true ∧ b.running = true ∧ b.suspension = none ∧ c.instr = none

theorem InTurn.of_core_eq {b b' : FiberBook} {c : FiberCode} (hb : b'.core = b.core)
    (ht : b.InTurn c) : b'.InTurn c := by
  have hst := congrArg FiberBook.started hb
  have hr := congrArg FiberBook.running hb
  have hs := congrArg FiberBook.suspension hb
  exact ⟨hst.trans ht.1, hr.trans ht.2.1, hs.trans ht.2.2.1, ht.2.2.2⟩

end FiberBook

namespace Heap

def resumes (h : Heap) (w f : Nat) : Prop := h.data.watchers[w]? = some (some (.resume f))

def unsubscribes (h : Heap) (k w : Nat) : Prop :=
  h.data.disposables[k]? = some ⟨false, some (.unwatch w)⟩

def subscriptions (h : Heap) (g : Nat) : Option Nat := (h.book g).suspension.map (·.subscription)

def TiedBy (h : Heap) (σ : Nat → Option Nat) (a : Option Release) : Prop :=
  ∀ w g, h.resumes w g → (∃ k, σ g = some k ∧ h.unsubscribes k w) ∨ a.any (·.stops w) = true

/-- What every computation keeps apart from the ties: code and bookkeeping have one entry per
fiber, a fiber not started waits on nothing, the disposables of a suspension run no callback, the
fibers of `R` stay inside a turn of their loops, and the watchers of `D` stay stopped. -/
structure Kept (h : Heap) (R D : Set Nat) : Prop where
  sizes : h.code.size = h.data.fibers.size
  fresh : ∀ g, (h.book g).started = false → (h.book g).suspension = none
  inert : ∀ g s, (h.book g).suspension = some s → h.data.inert s.subscription ∧ h.data.inert s.link
  paused : ∀ g ∈ R, (h.book g).InTurn (h.codeOf g)
  stopped : ∀ w ∈ D, h.data.watchers[w]? = some none

/-- The kept state with every live resumption tied to its fiber's suspension, except the one
that `a` stops. -/
structure Settled (h : Heap) (a : Option Release) (R D : Set Nat) : Prop extends h.Kept R D where
  tied : h.TiedBy h.subscriptions a

end Heap

namespace Data

/-- A change of the plain data made by a disposal that runs no callback: tame, and every stopped
watcher stays stopped. -/
structure Quiet (d d' : Data) : Prop extends d.Tame d' where
  stopped : ∀ w : Nat, d.watchers[w]? = some none → d'.watchers[w]? = some none

/-- A change of the plain data that keeps the ties: the fibers keep their number and their cores,
every disposable made before is kept, no resumption is woken and no stopped watcher restarted. -/
structure Calm (d d' : Data) : Prop where
  size : d'.fibers.size = d.fibers.size
  core : ∀ g, (d'.fiber g).core = (d.fiber g).core
  cells : ∀ (k : Nat) (c : DisposableCell), d.disposables[k]? = some c → d'.disposables[k]? = some c
  resumes : ∀ w g : Nat, d'.watchers[w]? = some (some (.resume g)) →
    d.watchers[w]? = some (some (.resume g))
  stopped : ∀ w : Nat, d.watchers[w]? = some none → d'.watchers[w]? = some none

variable {d d' d'' : Data}

theorem takeDisposal_fst_congr (hd : d'.disposables = d.disposables) (k : Nat) :
    (d'.takeDisposal k).1 = (d.takeDisposal k).1 := by
  simp only [takeDisposal, hd]
  split <;> rfl

theorem Calm.quiet (hc : d.Calm d') : d.Quiet d' where
  size := hc.size
  core := hc.core
  inert k hk := by
    unfold inert at hk ⊢
    split at hk
    · rename_i c hkc
      rw [hc.cells k c hkc]
      exact hk
    · cases hk
  stopped := hc.stopped

theorem Calm.trans (h₁ : d.Calm d') (h₂ : d'.Calm d'') : d.Calm d'' :=
  ⟨h₂.size.trans h₁.size, fun g => (h₂.core g).trans (h₁.core g),
    fun k c hk => h₂.cells k c (h₁.cells k c hk), fun w g hw => h₁.resumes w g (h₂.resumes w g hw),
    fun w hw => h₂.stopped w (h₁.stopped w hw)⟩

theorem Calm.of_eq (hf : d'.fibers = d.fibers) (hd : d'.disposables = d.disposables)
    (hw : d'.watchers = d.watchers) : d.Calm d' :=
  ⟨by rw [hf], fun g => by simp [fiber, hf], fun k c hk => by rwa [hd],
    fun w g h => by rwa [hw] at h, fun w h => by rwa [hw]⟩

theorem Quiet.trans (h₁ : d.Quiet d') (h₂ : d'.Quiet d'') : d.Quiet d'' :=
  ⟨h₁.toTame.trans h₂.toTame, fun w hw => h₂.stopped w (h₁.stopped w hw)⟩

theorem Quiet.of_takeDisposal (k : Nat) : d.Quiet (d.takeDisposal k).2 := by
  refine ⟨tame_takeDisposal k, fun w hw => ?_⟩
  unfold takeDisposal
  split <;> exact hw

theorem calm_newDisposable (a : Option Release) : d.Calm (d.newDisposable a).2 :=
  ⟨rfl, fun _ => rfl, fun k c hk => by simp [newDisposable, Array.getElem?_push, hk,
    Nat.ne_of_lt ((Array.getElem?_eq_some_iff.1 hk).1)], fun _ _ h => h, fun _ h => h⟩

theorem watchers_takeWatcher (w w' : Nat) :
    (d.takeWatcher w).2.watchers[w']? =
      if w = w' then (d.watchers[w']?).map fun _ => none else d.watchers[w']? := by
  unfold takeWatcher
  split
  · rename_i x hx
    by_cases hww : w = w'
    · subst hww; simp [(Array.getElem?_eq_some_iff.1 hx).1]
    · simp [hww]
  · rename_i hx
    by_cases hww : w = w'
    · subst hww; simp [hx]
    · simp [hww]

theorem calm_takeWatcher (w : Nat) : d.Calm (d.takeWatcher w).2 := by
  refine ⟨(tame_takeWatcher w).size, (tame_takeWatcher w).core, fun k c hk => ?_, fun w' g h => ?_,
    fun w' h => ?_⟩
  · unfold takeWatcher; split <;> exact hk
  · rw [watchers_takeWatcher] at h
    split at h
    · cases hx : d.watchers[w']? <;> simp [hx] at h
    · exact h
  · rw [watchers_takeWatcher]
    split <;> simp [h]

theorem calm_dropWatcher (k w : Nat) : d.Calm (d.dropWatcher k w) := .of_eq rfl rfl rfl

theorem calm_unwatch (w : Nat) : d.Calm (d.unwatch w) := by
  unfold unwatch
  split
  · exact (calm_takeWatcher w).trans (calm_dropWatcher _ w)
  · exact calm_takeWatcher w

theorem calm_resolveFuture (k : Nat) : d.Calm (d.resolveFuture k).2 := by
  unfold resolveFuture
  dsimp only
  split <;> exact .of_eq rfl rfl rfl

theorem calm_groupAdd (g m : Nat) : d.Calm (d.groupAdd g m).2 := by
  unfold groupAdd
  cases d.groups[g]? with
  | none => exact .of_eq rfl rfl rfl
  | some cell => dsimp only; split <;> exact .of_eq rfl rfl rfl

theorem calm_newGroup : d.Calm d.newGroup.2 := .of_eq rfl rfl rfl

theorem calm_groupDetach (g key : Nat) : d.Calm (d.groupDetach g key) := .of_eq rfl rfl rfl

theorem calm_groupTake (g : Nat) : d.Calm (d.groupTake g).2 := by
  unfold groupTake
  cases d.groups[g]? with
  | none => exact .of_eq rfl rfl rfl
  | some cell => dsimp only; split <;> exact .of_eq rfl rfl rfl

theorem calm_cancelTimer (t : TimerHandle) : d.Calm (d.cancelTimer t) := .of_eq rfl rfl rfl

theorem calm_removeTask (c : Nat) (key : TimelineKey) : d.Calm (d.removeTask c key).2 := by
  unfold removeTask
  dsimp only
  split <;> exact .of_eq rfl rfl rfl

theorem calm_dropFinalizer (r key : Nat) : d.Calm (d.dropFinalizer r key) := .of_eq rfl rfl rfl

theorem calm_guard (d₀ : Data) : d.Calm (d.guard d₀) := by
  refine ⟨rfl, fun _ => rfl, fun k c hk => ?_, fun _ _ h => h, fun _ h => h⟩
  simp [guard, Array.getElem?_append_left ((Array.getElem?_eq_some_iff.1 hk).1), hk]

theorem calm_modifyFiber_observers (f : Nat) (F : FiberBook → FiberBook)
    (hF : ∀ b, (F b).core = b.core) : d.Calm (d.modifyFiber f F) :=
  ⟨(tame_modifyFiber_observers f F hF).size, (tame_modifyFiber_observers f F hF).core,
    fun _ _ hk => hk, fun _ _ h => h, fun _ h => h⟩

theorem calm_removeObserver (f key : Nat) : d.Calm (d.removeObserver f key) :=
  calm_modifyFiber_observers f _ fun _ => rfl

theorem calm_takeObservers (f : Nat) : d.Calm (d.takeObservers f).2 :=
  calm_modifyFiber_observers f _ fun _ => rfl

theorem calm_addObserver (f cb : Nat) : d.Calm (d.addObserver f cb).2 := by
  unfold addObserver
  dsimp only
  refine Calm.trans ?_ (calm_newDisposable _)
  exact calm_modifyFiber_observers f _ fun _ => rfl

theorem calm_addWatcher_callback (k cb : Nat) : d.Calm (d.addWatcher k (.callback cb)).2 := by
  refine ⟨rfl, fun _ => rfl, fun _ _ hk => hk, fun w g h => ?_, fun w h => ?_⟩
  · simp only [addWatcher, Array.getElem?_push] at h
    split at h
    · cases h
    · exact h
  · have hlt := (Array.getElem?_eq_some_iff.1 h).1
    simp [addWatcher, Array.getElem?_push, Nat.ne_of_lt hlt, h]

end Data

def QuietStable (Q : Heap → Prop) : Prop := ∀ h d, Q h → h.data.Quiet d → Q (h.setData d)

namespace Heap

variable {h h' : Heap} {a : Option Release} {R D : Set Nat} {f : Nat} {σ : Nat → Option Nat}

@[simp] theorem takeDisposal_updateBook (F : FiberBook → FiberBook) (k : Nat) :
    ((h.updateBook f F).data.takeDisposal k).1 = (h.data.takeDisposal k).1 :=
  Data.takeDisposal_fst_congr (d := h.data)
    (show (h.updateBook f F).data.disposables = h.data.disposables from rfl) k

theorem TiedBy.of_data (ht : h.TiedBy σ a) (hw : ∀ w g, h'.resumes w g → h.resumes w g)
    (hc : ∀ k w, h.unsubscribes k w → h'.unsubscribes k w) : h'.TiedBy σ a := fun w g hr =>
  (ht w g (hw w g hr)).imp (fun ⟨k, hk, hu⟩ => ⟨k, hk, hc k w hu⟩) id

theorem TiedBy.weaken (ht : h.TiedBy σ none) (a : Option Release) : h.TiedBy σ a := fun w g hr =>
  (ht w g hr).imp_right fun h => by simp at h

theorem TiedBy.of_not_stops {r : Release} (ht : h.TiedBy σ (some r))
    (hr : ∀ w, r.stops w = false) : h.TiedBy σ none := fun w g hres =>
  (ht w g hres).imp_right fun h => by simp [hr w] at h

theorem TiedBy.calm {d : Data} (ht : h.TiedBy σ a) (hc : h.data.Calm d) :
    (h.setData d).TiedBy σ a :=
  ht.of_data (fun w g hr => hc.resumes w g hr) fun k _ hk => hc.cells k _ hk

/-- Disposing `k` may break the tie of the watcher it stops, which is then the exception. -/
theorem TiedBy.takeDisposal {k : Nat} (ht : h.TiedBy σ (h.data.takeDisposal k).1) :
    (h.setData (h.data.takeDisposal k).2).TiedBy σ (h.data.takeDisposal k).1 := by
  intro w g hr
  have hw : (h.data.takeDisposal k).2.watchers = h.data.watchers := by
    unfold Data.takeDisposal; split <;> rfl
  have hr' : h.resumes w g := by simpa [resumes, hw] using hr
  rcases ht w g hr' with ⟨k', hk', hcell⟩ | hstop
  · by_cases hkk : k = k'
    · -- the disposed subscription is the tie's: what its disposal releases stops the watcher
      subst hkk
      right
      simp [Data.takeDisposal, show h.data.disposables[k]? = _ from hcell, Release.stops]
    · left
      refine ⟨k', hk', ?_⟩
      unfold Data.takeDisposal
      split
      · simpa [unsubscribes, Array.getElem?_setIfInBounds, hkk] using hcell
      · exact hcell
  · exact .inr hstop

/-- Stopping the watcher that was the exception restores every tie. -/
theorem TiedBy.unwatch {w : Nat} (ht : h.TiedBy σ (some (.unwatch w))) :
    (h.setData (h.data.unwatch w)).TiedBy σ none := by
  intro w' g hr
  have hne : w ≠ w' := by
    intro hww
    subst hww
    simp only [resumes, setData, Data.watchers_unwatch, Data.watchers_takeWatcher, if_true] at hr
    cases hx : h.data.watchers[w]? <;> simp [hx] at hr
  have hr' : h.resumes w' g := by
    simpa [resumes, setData, Data.watchers_unwatch, Data.watchers_takeWatcher, hne] using hr
  rcases ht w' g hr' with ⟨k, hk, hcell⟩ | hstop
  · left
    refine ⟨k, hk, ?_⟩
    simpa [unsubscribes, setData, Data.disposables_unwatch] using hcell
  · simp [Release.stops, hne] at hstop

theorem subscriptions_setData {d : Data} (hc : ∀ g, (d.fiber g).core = (h.data.fiber g).core) :
    (h.setData d).subscriptions = h.subscriptions := by
  funext g
  simp only [subscriptions, book_setData, FiberBook.suspension_of_core_eq (hc g)]
  rfl

theorem Kept.quiet {d : Data} (hk : h.Kept R D) (hq : h.data.Quiet d) : (h.setData d).Kept R D where
  sizes := by simp [hk.sizes, hq.size]
  fresh g hg := by
    have hst := congrArg FiberBook.started (hq.core g)
    rw [book_setData, FiberBook.suspension_of_core_eq (hq.core g)]
    exact hk.fresh g (hst.symm.trans hg)
  inert g s hs := by
    rw [book_setData, FiberBook.suspension_of_core_eq (hq.core g)] at hs
    obtain ⟨h1, h2⟩ := hk.inert g s hs
    exact ⟨hq.inert _ h1, hq.inert _ h2⟩
  paused g hg := by
    rw [book_setData, codeOf_setData]
    exact (hk.paused g hg).of_core_eq (hq.core g)
  stopped w hw := hq.stopped w (hk.stopped w hw)

theorem Settled.calm {d : Data} (hs : h.Settled a R D) (hc : h.data.Calm d) :
    (h.setData d).Settled a R D :=
  ⟨hs.toKept.quiet hc.quiet, by rw [subscriptions_setData hc.core]; exact hs.tied.calm hc⟩

theorem Settled.of_same (hs : h.Settled a R D) (hd : h'.data = h.data) (hc : h'.code = h.code) :
    h'.Settled a R D := by
  have hb : ∀ g, h'.book g = h.book g := fun g => by simp [book, hd]
  have hcode : ∀ g, h'.codeOf g = h.codeOf g := fun g => by simp [codeOf, hc]
  have hsub : h'.subscriptions = h.subscriptions := funext fun g => by simp [subscriptions, hb]
  refine ⟨⟨by rw [hc, hd]; exact hs.sizes, fun g => by rw [hb]; exact hs.fresh g,
    fun g s => by rw [hb, hd]; exact hs.inert g s, fun g hg => by rw [hb, hcode]; exact hs.paused g hg,
    fun w hw => by rw [hd]; exact hs.stopped w hw⟩, ?_⟩
  rw [hsub]
  exact hs.tied.of_data (fun w g hr => by simpa [resumes, hd] using hr)
    fun k w hu => by simpa [unsubscribes, hd] using hu

theorem Settled.weaken (hs : h.Settled none R D) (a : Option Release) : h.Settled a R D :=
  ⟨hs.toKept, hs.tied.weaken a⟩

theorem Settled.of_not_stops {r : Release} (hs : h.Settled (some r) R D)
    (hr : ∀ w, r.stops w = false) : h.Settled none R D :=
  ⟨hs.toKept, hs.tied.of_not_stops hr⟩

theorem Settled.takeDisposal {k : Nat} (hs : h.Settled (h.data.takeDisposal k).1 R D) :
    (h.setData (h.data.takeDisposal k).2).Settled (h.data.takeDisposal k).1 R D := by
  have hq := Data.Quiet.of_takeDisposal (d := h.data) k
  exact ⟨hs.toKept.quiet hq, by rw [subscriptions_setData hq.core]; exact hs.tied.takeDisposal⟩

theorem Settled.unwatch {w : Nat} (hs : h.Settled (some (.unwatch w)) R D) :
    (h.setData (h.data.unwatch w)).Settled none R D := by
  have hc := Data.calm_unwatch (d := h.data) w
  exact ⟨hs.toKept.quiet hc.quiet, by rw [subscriptions_setData hc.core]; exact hs.tied.unwatch⟩

theorem Kept.hold (hk : h.Kept R D) (hf : (h.book f).InTurn (h.codeOf f)) :
    h.Kept (insert f R) D :=
  ⟨hk.sizes, hk.fresh, hk.inert, fun g hg => by
    rcases Set.mem_insert_iff.1 hg with rfl | hg
    · exact hf
    · exact hk.paused g hg, hk.stopped⟩

theorem Kept.unhold (hk : h.Kept (insert f R) D) :
    h.Kept R D ∧ (h.book f).InTurn (h.codeOf f) :=
  ⟨⟨hk.sizes, hk.fresh, hk.inert, fun g hg => hk.paused g (Set.mem_insert_of_mem f hg), hk.stopped⟩,
    hk.paused f (Set.mem_insert f R)⟩

theorem Settled.hold (hs : h.Settled a R D) (hf : (h.book f).InTurn (h.codeOf f)) :
    h.Settled a (insert f R) D :=
  ⟨hs.toKept.hold hf, hs.tied⟩

theorem Settled.unhold (hs : h.Settled a (insert f R) D) :
    h.Settled a R D ∧ (h.book f).InTurn (h.codeOf f) :=
  ⟨⟨hs.toKept.unhold.1, hs.tied⟩, hs.toKept.unhold.2⟩

theorem Kept.not_mem_of_suspended (hk : h.Kept R D) {s : Suspension}
    (hs : (h.book f).suspension = some s) : f ∉ R := fun hf => by
  simp [(hk.paused f hf).2.2.1] at hs

theorem Kept.started_of_suspended (hk : h.Kept R D) {s : Suspension}
    (hs : (h.book f).suspension = some s) : (h.book f).started = true := by
  cases hst : (h.book f).started
  · simp [hk.fresh f hst] at hs
  · rfl

theorem Kept.updateBook {F : FiberBook → FiberBook} (hk : h.Kept R D)
    (hf : f < h.data.fibers.size)
    (hfresh : (F (h.book f)).started = false → (F (h.book f)).suspension = none)
    (hinert : ∀ s, (F (h.book f)).suspension = some s →
      h.data.inert s.subscription = true ∧ h.data.inert s.link = true)
    (hpaused : f ∈ R → (F (h.book f)).InTurn (h.codeOf f)) : (h.updateBook f F).Kept R D := by
  have hself := book_updateBook_self (h := h) F hf
  refine ⟨by simp [hk.sizes], fun g hg => ?_, fun g s hg => ?_, fun g hg => ?_, hk.stopped⟩
  · by_cases hgf : g = f
    · subst hgf
      rw [hself] at hg ⊢
      exact hfresh hg
    · rw [book_updateBook_of_ne F (Ne.symm hgf)] at hg ⊢
      exact hk.fresh g hg
  · by_cases hgf : g = f
    · subst hgf
      rw [hself] at hg
      exact hinert s hg
    · rw [book_updateBook_of_ne F (Ne.symm hgf)] at hg
      exact hk.inert g s hg
  · rw [codeOf_updateBook]
    by_cases hgf : g = f
    · subst hgf
      rw [hself]
      exact hpaused hg
    · rw [book_updateBook_of_ne F (Ne.symm hgf)]
      exact hk.paused g hg

theorem Settled.updateBook {F : FiberBook → FiberBook} (hs : h.Settled a R D)
    (hsus : (F (h.book f)).suspension = (h.book f).suspension)
    (hst : (h.book f).started = true → (F (h.book f)).started = true)
    (hR : f ∈ R → (F (h.book f)).running = true) : (h.updateBook f F).Settled a R D := by
  rcases Nat.lt_or_ge f h.data.fibers.size with hf | hf
  swap
  · rw [updateBook_of_le F hf]; exact hs
  have hself := book_updateBook_self (h := h) F hf
  have hsub : (h.updateBook f F).subscriptions = h.subscriptions := by
    funext g
    by_cases hgf : g = f
    · subst hgf; simp only [subscriptions, hself, hsus]
    · simp [subscriptions, Ne.symm hgf]
  refine ⟨hs.toKept.updateBook hf (fun hg => ?_) (fun s hg => hs.inert f s (hsus ▸ hg))
    fun hfR => ?_, ?_⟩
  · rw [hsus]
    exact hs.fresh _ (Bool.eq_false_iff.2 fun h => by simp [hst h] at hg)
  · obtain ⟨h1, -, h3, h4⟩ := hs.paused _ hfR
    exact ⟨hst h1, hR hfR, hsus.trans h3, h4⟩
  · rw [hsub]
    exact hs.tied.of_data (fun _ _ hr => hr) fun _ _ hu => hu

/-- A change of one fiber's code that, while the fiber is in a turn, leaves it no instruction. -/
theorem Settled.updateCode {G : FiberCode → FiberCode} (hs : h.Settled a R D)
    (hR : f ∈ R → (G (h.codeOf f)).instr = none) : (h.updateCode f G).Settled a R D := by
  have hsub : (h.updateCode f G).subscriptions = h.subscriptions := rfl
  refine ⟨⟨by simp [hs.sizes], hs.fresh, hs.inert, fun g hg => ?_, hs.stopped⟩, by
    rw [hsub]; exact hs.tied⟩
  have hp := hs.paused g hg
  rw [book_updateCode]
  by_cases hgf : g = f
  · subst hgf
    rw [codeOf_updateCode_same]
    split
    · exact ⟨hp.1, hp.2.1, hp.2.2.1, hR hg⟩
    · exact hp
  · rw [codeOf_updateCode_of_ne G (Ne.symm hgf)]
    exact hp

/-- A new fiber, waiting on nothing, joins the heap at the end. -/
theorem Settled.pushFiber {h' : Heap} {b : FiberBook} {c : FiberCode} (hs : h.Settled a R D)
    (hd : h'.data = { h.data with fibers := h.data.fibers.push b }) (hc : h'.code = h.code.push c)
    (hsus : b.suspension = none) : h'.Settled a R D := by
  have hb : ∀ g, h'.book g = if g = h.data.fibers.size then b else h.book g := by
    intro g
    simp only [book, Data.fiber, hd, Array.getElem?_push]
    split <;> simp
  -- the slot of the new fiber held the bookkeeping of no fiber: not started, waiting on nothing
  have hold : h.book h.data.fibers.size = default := by simp [book, Data.fiber]
  have hnotR : h.data.fibers.size ∉ R := fun hR => by
    have hrun := (hs.paused _ hR).2.1
    rw [hold] at hrun
    exact Bool.false_ne_true hrun
  have hsub : h'.subscriptions = h.subscriptions := by
    funext g
    simp only [subscriptions, hb]
    split
    · subst_vars; rw [hsus, hold]; rfl
    · rfl
  refine ⟨⟨by simp [hd, hc, hs.sizes], fun g hg => ?_, fun g s hg => ?_, fun g hg => ?_, ?_⟩, ?_⟩
  · rw [hb] at hg ⊢
    split
    · exact hsus
    · rw [if_neg ‹_›] at hg
      exact hs.fresh g (by simpa [hd] using hg)
  · rw [hb] at hg
    split at hg
    · simp [hsus] at hg
    · simpa [Data.inert, hd] using hs.inert g s hg
  · have hgs : g ≠ h.data.fibers.size := fun h => hnotR (h ▸ hg)
    have hcode : h'.codeOf g = h.codeOf g := by
      simp [codeOf, hc, Array.getElem?_push, hs.sizes, hgs]
    rw [hb, if_neg hgs, hcode]
    exact hs.paused g hg
  · simpa [hd] using hs.stopped
  · rw [hsub]
    exact hs.tied.of_data (fun _ _ hr => by simpa [resumes, hd] using hr)
      fun _ _ hu => by simpa [unsubscribes, hd] using hu

theorem Settled.leave {s : Suspension} (hs : h.Settled none R D)
    (hsus : (h.book f).suspension = some s) :
    (h.updateBook f fun b => { b with suspension := none }).Settled
      (h.data.takeDisposal s.subscription).1 R D := by
  have hf := lt_of_started (hs.toKept.started_of_suspended hsus)
  have hfR := hs.toKept.not_mem_of_suspended hsus
  refine ⟨hs.toKept.updateBook hf (fun _ => rfl) (fun _ hg => by cases hg)
    fun hR => absurd hR hfR, ?_⟩
  intro w g hr
  rcases hs.tied w g hr with ⟨k, hk, hu⟩ | hstop
  · by_cases hgf : g = f
    · -- the fiber's own watcher: its subscription is the one about to be disposed
      subst hgf
      simp only [subscriptions, hsus, Option.map_some, Option.some.injEq] at hk
      subst hk
      right
      simp [Data.takeDisposal, show h.data.disposables[s.subscription]? = _ from hu, Release.stops]
    · left
      refine ⟨k, ?_, hu⟩
      simpa [subscriptions, book_updateBook_of_ne _ (Ne.symm hgf)] using hk
  · simp at hstop

/-- Suspending a fiber that is in a turn on a subscription already tied as its own. -/
theorem Settled.suspend {sub link : Nat} (hk : h.Kept (insert f R) D) (hfR : f ∉ R)
    (ht : h.TiedBy (Function.update h.subscriptions f (some sub)) none)
    (hsub : h.data.inert sub = true) (hlink : h.data.inert link = true) :
    (h.updateBook f fun b => { b with suspension := some ⟨sub, link⟩ }).Settled none R D := by
  obtain ⟨hkR, hturn⟩ := hk.unhold
  have hf := lt_of_started hturn.1
  have hself := book_updateBook_self (h := h) (fun b => { b with suspension := some ⟨sub, link⟩ }) hf
  have hsubs : (h.updateBook f fun b => { b with suspension := some ⟨sub, link⟩ }).subscriptions =
      Function.update h.subscriptions f (some sub) := by
    funext g
    by_cases hgf : g = f
    · subst hgf; simp [subscriptions, hself]
    · simp [subscriptions, hgf, Ne.symm hgf]
  refine ⟨hkR.updateBook hf (fun hg => by simp [hturn.1] at hg)
    (fun s hg => by cases hg; exact ⟨hsub, hlink⟩) fun hR => absurd hR hfR, ?_⟩
  rw [hsubs]
  exact ht.of_data (fun _ _ hr => hr) fun _ _ hu => hu

theorem Settled.watchResume (hs : h.Settled none R D) (hf : (h.book f).suspension = none)
    (k : Nat) :
    let d₁ := (h.data.addWatcher k (.resume f)).2
    let d₂ := (d₁.newDisposable (some (.unwatch (h.data.addWatcher k (.resume f)).1))).2
    h.data.Quiet d₂ ∧
      (h.setData d₂).TiedBy
        (Function.update (h.setData d₂).subscriptions f (some d₁.disposables.size)) none ∧
      d₂.inert d₁.disposables.size = true := by
  intro d₁ d₂
  have hc₁ : h.data.Quiet d₁ := ⟨Data.tame_addWatcher k _, fun w hw => by
    simp [d₁, Data.addWatcher, Array.getElem?_push, Nat.ne_of_lt ((Array.getElem?_eq_some_iff.1 hw).1), hw]⟩
  have hc₂ := (Data.calm_newDisposable (d := d₁) (some (.unwatch (h.data.addWatcher k (.resume f)).1)))
  have hsubs : (h.setData d₂).subscriptions = h.subscriptions :=
    subscriptions_setData fun g => (hc₂.core g).trans (hc₁.core g)
  refine ⟨hc₁.trans hc₂.quiet, ?_, ?_⟩
  · intro w g hr
    left
    simp only [resumes, data_setData, d₂, Data.newDisposable, d₁, Data.addWatcher,
      Array.getElem?_push] at hr
    split at hr
    · -- the new watcher: tied by the new subscription
      rename_i hw
      cases hr
      refine ⟨d₁.disposables.size, by simp, ?_⟩
      simp [unsubscribes, d₂, d₁, Data.newDisposable, Data.addWatcher, hw]
    · -- an old watcher: tied as before, and not the fiber's, which waited on nothing
      obtain ⟨k', hk', hcell⟩ | hstop := hs.tied w g hr
      · have hgf : g ≠ f := by
          rintro rfl
          simp [subscriptions, hf] at hk'
        refine ⟨k', by simpa [hsubs, hgf] using hk', ?_⟩
        have hlt := (Array.getElem?_eq_some_iff.1 (show h.data.disposables[k']? = _ from hcell)).1
        simpa [unsubscribes, d₂, d₁, Data.newDisposable, Data.addWatcher, Array.getElem?_push,
          Nat.ne_of_lt hlt] using hcell
      · simp at hstop
  · simp [d₂, Data.inert, Data.newDisposable, Release.quiet]

end Heap

namespace Machine

variable {n : Nat} {Q : Heap → Prop} {σ : Heap → Nat → Option Nat}

theorem release_quiet_tied (hQ : QuietStable Q)
    (hσ : ∀ h d, h.data.Quiet d → σ (h.setData d) = σ h) (r : Release) :
    ⦃fun h => ⌜Q h ∧ r.quiet = true ∧ h.TiedBy (σ h) (some r)⌝⦄ release n r
    ⦃post⟨fun _ h => ⌜Q h ∧ h.TiedBy (σ h) none⌝, fun e h => ⌜e.Leaves (fun _ => False) h⌝⟩⦄ := by
  cases n with
  | zero => rw [release]; mvcgen
  | succ n =>
    -- a release that stops no watcher changes the data calmly
    have hcalm : ∀ (h : Heap) (d : Data), h.data.Calm d → (∀ w, r.stops w = false) →
        Q h → h.TiedBy (σ h) (some r) → Q (h.setData d) ∧ (h.setData d).TiedBy (σ (h.setData d)) none :=
      fun h d hc hr hq ht => ⟨hQ h d hq hc.quiet, by
        rw [hσ h d hc.quiet]; exact (ht.of_not_stops hr).calm hc⟩
    cases r with
    | callback | removeTask | disposeGroup =>
      rw [release]
      mvcgen
      all_goals simp_all [Release.quiet]
    | unwatch w =>
      rw [release]
      mvcgen with
      | vc1 h hpre =>
        have hc := Data.calm_unwatch (d := h.data) w
        exact ⟨hQ h _ hpre.1 hc.quiet, by rw [hσ h _ hc.quiet]; exact hpre.2.2.unwatch⟩
    | detach g key =>
      rw [release]
      mvcgen with
      | vc1 h hpre => exact hcalm h _ (Data.calm_groupDetach g key) (fun _ => rfl) hpre.1 hpre.2.2
    | unobserve f key =>
      rw [release]
      mvcgen with
      | vc1 h hpre => exact hcalm h _ (Data.calm_removeObserver f key) (fun _ => rfl) hpre.1 hpre.2.2
    | cancelTimer t =>
      rw [release]
      mvcgen with
      | vc1 h hpre => exact hcalm h _ (Data.calm_cancelTimer t) (fun _ => rfl) hpre.1 hpre.2.2
    | dropFinalizer r key =>
      rw [release]
      mvcgen with
      | vc1 h hpre => exact hcalm h _ (Data.calm_dropFinalizer r key) (fun _ => rfl) hpre.1 hpre.2.2

theorem dispose_quiet_tied (hQ : QuietStable Q)
    (hσ : ∀ h d, h.data.Quiet d → σ (h.setData d) = σ h) (k : Nat) :
    ⦃fun h => ⌜Q h ∧ h.data.inert k ∧ h.TiedBy (σ h) (h.data.takeDisposal k).1⌝⦄ dispose n k
    ⦃post⟨fun _ h => ⌜Q h ∧ h.TiedBy (σ h) none⌝, fun e h => ⌜e.Leaves (fun _ => False) h⌝⟩⦄ := by
  cases n with
  | zero => rw [dispose]; mvcgen
  | succ n =>
    have hr := fun r => release_quiet_tied (n := n) hQ hσ r
    rw [dispose]
    mvcgen [hr] with
    | vc1 h hpre hnone =>
      have hq := Data.Quiet.of_takeDisposal (d := h.data) k
      have ht := hpre.2.2.takeDisposal
      rw [hnone] at ht
      exact ⟨hQ h _ hpre.1 hq, by rw [hσ h _ hq]; exact ht⟩
    | vc2 h hpre r hr =>
      have hq := Data.Quiet.of_takeDisposal (d := h.data) k
      have ht := hpre.2.2.takeDisposal
      rw [hr] at ht
      exact ⟨hQ h _ hpre.1 hq, Data.quiet_takeDisposal hpre.2.1 hr, by rw [hσ h _ hq]; exact ht⟩

theorem groupAdd_quiet_tied (hQ : QuietStable Q)
    (hσ : ∀ h d, h.data.Quiet d → σ (h.setData d) = σ h) (g m : Nat) :
    ⦃fun h => ⌜Q h ∧ h.data.inert m ∧ h.TiedBy (σ h) none⌝⦄ groupAdd n g m
    ⦃post⟨fun r h => ⌜Q h ∧ h.data.inert r ∧ h.data.inert m ∧ h.TiedBy (σ h) none⌝,
      fun e h => ⌜e.Leaves (fun _ => False) h⌝⟩⦄ := by
  cases n with
  | zero => rw [groupAdd]; mvcgen
  | succ n =>
    have hQm : QuietStable fun h => Q h ∧ h.data.inert m = true :=
      fun h d hqm hd => ⟨hQ h d hqm.1 hd, hd.inert m hqm.2⟩
    have hd := fun k => dispose_quiet_tied (n := n) hQm hσ k
    rw [groupAdd]
    mvcgen [hd] with
    | vc1 h hpre key _ =>
      have h1 := Data.calm_groupAdd (d := h.data) g m
      have h2 := Data.calm_newDisposable (d := (h.data.groupAdd g m).2) (some (.detach g key))
      refine ⟨hQ _ _ (hQ h _ hpre.1 h1.quiet) h2.quiet,
        by simp [Data.inert_newDisposable, Release.quiet],
        h2.quiet.inert m (h1.quiet.inert m hpre.2.1), ?_⟩
      rw [hσ _ _ h2.quiet, hσ h _ h1.quiet]
      exact (hpre.2.2.calm h1).calm h2
    | vc2 h hpre _ =>
      have h1 := Data.calm_groupAdd (d := h.data) g m
      refine ⟨⟨hQ h _ hpre.1 h1.quiet, h1.quiet.inert m hpre.2.1⟩, h1.quiet.inert m hpre.2.1, ?_⟩
      rw [hσ h _ h1.quiet]
      exact (hpre.2.2.calm h1).weaken _
    | vc3 h₀ _ _ _ h hpost =>
      have h2 := Data.calm_newDisposable (d := h.data) none
      refine ⟨hQ h _ hpost.1.1 h2.quiet, by simp [Data.inert_newDisposable], h2.quiet.inert m hpost.1.2, ?_⟩
      rw [hσ h _ h2.quiet]
      exact hpost.2.calm h2

end Machine

end FiberEffects
