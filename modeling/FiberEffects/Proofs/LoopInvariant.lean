import FiberEffects.Proofs.Primitives

open Std.Do

namespace FiberEffects

namespace FiberBook

def core (b : FiberBook) : FiberBook := { b with observers := [], nextObserver := 0 }

def atRest (b : FiberBook) : Bool := b.started && !b.running && b.exit.isNone

def inWindow (b : FiberBook) : Bool := b.atRest && b.suspension.isNone

def unwinding (b : FiberBook) : Bool := b.interrupting && !b.finalizing

def depthOf (b : FiberBook) : Restore → Nat
  | .context => b.context.depth
  | .store => b.stores.depth
  | .flags => b.flags.depth

def Busy (b : FiberBook) (c : FiberCode) : Prop :=
  b.running = true ∧ b.exit = none ∧ b.suspension = none ∧ c.instr = none

end FiberBook

namespace Frame

def restores : Frame → Restore → Bool
  | .restore r', r => r' == r
  | _, _ => false

end Frame

namespace Effect

def isFailure : Effect → Bool
  | .mk (.fail _) none => true
  | _ => false

@[simp] theorem isFailure_failCause (c : Cause Json) : (failCause c).isFailure = true := rfl

theorem instr_of_isFailure {e : Effect} (h : e.isFailure = true) :
    ∃ x, e.instr = .fail x := by
  unfold Effect.isFailure at h
  split at h
  · exact ⟨_, rfl⟩
  · cases h

end Effect

namespace Release

def quiet : Release → Bool
  | .callback _ | .removeTask _ _ | .disposeGroup _ => false
  | _ => true

end Release

namespace Data

def inert (d : Data) (k : Nat) : Bool :=
  match d.disposables[k]? with
  | some cell => cell.action.all Release.quiet
  | none => false

/-- A change of the plain data the fibers' loops cannot see: the fibers keep their number and
their cores, and every inert disposable stays inert. -/
structure Tame (d d' : Data) : Prop where
  size : d'.fibers.size = d.fibers.size
  core : ∀ g, (d'.fiber g).core = (d.fiber g).core
  inert : ∀ k, d.inert k = true → d'.inert k = true

end Data

/-- A fiber's bookkeeping agrees with its code. -/
structure FiberOk (b : FiberBook) (c : FiberCode) : Prop where
  counted : ∀ r, b.depthOf r = c.frames.countP (·.restores r)
  fresh : b.started = false → b.running = false ∧ b.suspension = none ∧ b.exit = none
  done : b.exit.isSome → b.suspension = none ∧ c.instr = none
  waiting : b.suspension.isSome → b.running = false → b.interruptsNow = false ∧ c.instr = none
  unwinding : b.exit = none → b.unwinding = true → b.suspension = none ∧ c.instr.all Effect.isFailure

/-- The invariant of the heap between the steps of the machine. -/
structure Inv (h : Heap) : Prop where
  sizes : h.code.size = h.data.fibers.size
  fibers : ∀ g, FiberOk (h.book g) (h.codeOf g)
  ready : ∀ g < h.data.fibers.size, (h.book g).started = false → (h.codeOf g).instr.isSome
  inert : ∀ g s, (h.book g).suspension = some s → h.data.inert s.subscription ∧ h.data.inert s.link

/-- How a fiber paused inside its own loop is found again after a nested computation. -/
inductive Pause where
  | calm
  | busy
  | closing
  | asked

namespace Pause

def holds : Pause → FiberBook → FiberCode → Prop
  | .calm, b, c => b.Busy c ∧ b.unwinding = false
  | .busy, b, c => b.Busy c
  | .closing, b, _ => b.running = true ∧ b.exit.isSome
  | .asked, b, c => b.Busy c ∧ b.unwinding = false ∧ b.interruptCause.isEmpty = false

end Pause

namespace Heap

def windows (h : Heap) : Set Nat := {g | (h.book g).inWindow}

def Held (h : Heap) (P : Nat → Option Pause) : Prop :=
  ∀ g p, P g = some p → p.holds (h.book g) (h.codeOf g)

end Heap

/-- The invariant, with the fibers in a window and the paused fibers fixed. -/
structure Steady (w : Set Nat) (P : Nat → Option Pause) (h : Heap) : Prop where
  inv : Inv h
  windows : h.windows = w
  held : h.Held P

def Keeps {α : Type} (m : Machine α) : Prop :=
  ∀ w P, ⦃fun h => ⌜Steady w P h⌝⦄ m
    ⦃post⟨fun _ h => ⌜Steady w P h⌝, fun e h => ⌜e.Leaves (Steady w P) h⌝⟩⦄

section core

variable {b b' : FiberBook} {c : FiberCode}

theorem FiberOk.core_iff : FiberOk b.core c ↔ FiberOk b c :=
  ⟨fun h => ⟨h.counted, h.fresh, h.done, h.waiting, h.unwinding⟩,
    fun h => ⟨h.counted, h.fresh, h.done, h.waiting, h.unwinding⟩⟩

theorem FiberOk.of_core_eq (hb : b'.core = b.core) (hok : FiberOk b c) : FiberOk b' c :=
  core_iff.1 (hb ▸ core_iff.2 hok)

theorem FiberBook.inWindow_of_core_eq (hb : b'.core = b.core) : b'.inWindow = b.inWindow := by
  have := congrArg FiberBook.inWindow hb
  exact this

theorem Pause.holds_core_iff {p : Pause} : p.holds b.core c ↔ p.holds b c := by
  cases p <;> exact Iff.rfl

theorem Pause.holds_of_core_eq {p : Pause} (hb : b'.core = b.core) (hp : p.holds b c) :
    p.holds b' c :=
  holds_core_iff.1 (hb ▸ holds_core_iff.2 hp)

theorem FiberBook.interruptsNow_of_core_eq {b b' : FiberBook} (hb : b'.core = b.core) :
    b'.interruptsNow = b.interruptsNow := by
  have := congrArg FiberBook.interruptsNow hb
  exact this

theorem FiberBook.suspension_of_core_eq (hb : b'.core = b.core) : b'.suspension = b.suspension := by
  have := congrArg FiberBook.suspension hb
  exact this

end core

namespace Steady

variable {w : Set Nat} {P : Nat → Option Pause} {h h' : Heap}

/-- A tame change of the plain data keeps the invariant, the windows and the pauses. -/
theorem setData {d : Data} (hs : Steady w P h) (ht : h.data.Tame d) : Steady w P (h.setData d) := by
  obtain ⟨hinv, hw, hheld⟩ := hs
  refine ⟨⟨?_, ?_, ?_, ?_⟩, ?_, ?_⟩
  · simp [hinv.sizes, ht.size]
  · intro g
    exact (hinv.fibers g).of_core_eq (ht.core g)
  · intro g hg hst
    have hcore := congrArg FiberBook.started (ht.core g)
    exact hinv.ready g (by simpa [ht.size] using hg) (hcore.symm.trans hst)
  · intro g s hsus
    rw [Heap.book_setData, FiberBook.suspension_of_core_eq (ht.core g)] at hsus
    obtain ⟨h1, h2⟩ := hinv.inert g s hsus
    exact ⟨ht.inert _ h1, ht.inert _ h2⟩
  · rw [← hw]
    ext g
    simp [Heap.windows, Heap.book, FiberBook.inWindow_of_core_eq (ht.core g)]
  · intro g p hp
    exact Pause.holds_of_core_eq (ht.core g) (hheld g p hp)

/-- Changing the heap outside its data and code keeps everything. -/
theorem of_data_code (hs : Steady w P h) (hd : h'.data = h.data) (hc : h'.code = h.code) :
    Steady w P h' := by
  have hb : ∀ g, h'.book g = h.book g := fun g => by simp [Heap.book, hd]
  have hcode : ∀ g, h'.codeOf g = h.codeOf g := fun g => by simp [Heap.codeOf, hc]
  obtain ⟨⟨hsz, hok, hready, hin⟩, hw, hheld⟩ := hs
  refine ⟨⟨by rw [hc, hd]; exact hsz, fun g => by rw [hb, hcode]; exact hok g,
    fun g hg => by rw [hb, hcode]; exact hready g (hd ▸ hg), fun g s hsus => ?_⟩,
    ?_, fun g p hp => by rw [hb, hcode]; exact hheld g p hp⟩
  · rw [hd]
    exact hin g s (by rwa [← hb])
  · rw [← hw]
    ext g
    simp [Heap.windows, hb]

end Steady

namespace Data

variable {d d' : Data}

theorem Tame.of_eq (hf : d'.fibers = d.fibers) (hd : d'.disposables = d.disposables) : d.Tame d' :=
  ⟨by rw [hf], fun g => by simp [fiber, hf], fun k hk => by simpa [Data.inert, hd] using hk⟩

theorem Tame.trans {d'' : Data} (h₁ : d.Tame d') (h₂ : d'.Tame d'') : d.Tame d'' :=
  ⟨h₂.size.trans h₁.size, fun g => (h₂.core g).trans (h₁.core g), fun k hk => h₂.inert k (h₁.inert k hk)⟩

@[simp] theorem inert_push {cell : DisposableCell} (k : Nat) (hk : d.inert k = true) :
    ({ d with disposables := d.disposables.push cell } : Data).inert k = true := by
  unfold inert at hk ⊢
  split at hk
  · rename_i c hc
    have hlt : k < d.disposables.size := by
      rcases Nat.lt_or_ge k d.disposables.size with h | h
      · exact h
      · simp [Array.getElem?_eq_none h] at hc
    simp [Array.getElem?_push, Nat.ne_of_lt hlt, hc, hk]
  · exact absurd hk (by simp)

theorem tame_newDisposable (a : Option Release) : d.Tame (d.newDisposable a).2 :=
  ⟨rfl, fun _ => rfl, fun k hk => inert_push k hk⟩

theorem inert_newDisposable (a : Option Release) :
    (d.newDisposable a).2.inert (d.newDisposable a).1 = a.all Release.quiet := by
  simp [newDisposable, inert]

/-- The release taken from an inert disposable is quiet. -/
theorem quiet_takeDisposal {k : Nat} {r : Release} (hk : d.inert k = true)
    (hr : (d.takeDisposal k).1 = some r) : r.quiet = true := by
  unfold inert at hk
  unfold takeDisposal at hr
  split at hk
  · rename_i cell hc
    simp only [hc] at hr
    simpa [hr] using hk
  · cases hk

theorem tame_takeDisposal (k : Nat) : d.Tame (d.takeDisposal k).2 := by
  unfold takeDisposal
  cases hk : d.disposables[k]? with
  | none => exact .of_eq rfl rfl
  | some cell =>
    have hlt : k < d.disposables.size := by
      rcases Nat.lt_or_ge k d.disposables.size with h | h
      · exact h
      · simp [Array.getElem?_eq_none h] at hk
    refine ⟨rfl, fun _ => rfl, fun j hj => ?_⟩
    by_cases hjk : k = j
    · subst hjk
      simp [Data.inert, hlt]
    · simpa [Data.inert, Array.getElem?_setIfInBounds, hjk] using hj

theorem tame_guard (d₀ : Data) : d.Tame (d.guard d₀) := by
  refine ⟨rfl, fun _ => rfl, fun k hk => ?_⟩
  unfold inert at hk ⊢
  split at hk
  · rename_i c hc
    have hlt : k < d.disposables.size := by
      rcases Nat.lt_or_ge k d.disposables.size with h | h
      · exact h
      · simp [Array.getElem?_eq_none h] at hc
    simp [guard, Array.getElem?_append_left hlt, hc, hk]
  · exact absurd hk (by simp)

theorem tame_takeWatcher (n : Nat) : d.Tame (d.takeWatcher n).2 := by
  unfold takeWatcher
  cases d.watchers[n]? <;> exact .of_eq rfl rfl

theorem tame_dropWatcher (k n : Nat) : d.Tame (d.dropWatcher k n) := .of_eq rfl rfl

theorem tame_unwatch (n : Nat) : d.Tame (d.unwatch n) := by
  unfold unwatch
  split
  · exact (tame_takeWatcher n).trans (tame_dropWatcher _ n)
  · exact tame_takeWatcher n

theorem unwatch_of_lookup {n k : Nat} (hk : d.watched.lookup n = some k) :
    d.unwatch n = (d.takeWatcher n).2.dropWatcher k n := by
  rw [unwatch, hk]

theorem unwatch_frame (n : Nat) :
    ∃ ws fs, d.unwatch n = { d with watchers := ws, futures := fs } := by
  unfold unwatch takeWatcher
  split <;> split
  all_goals exact ⟨_, _, rfl⟩

theorem watchers_unwatch (w w' : Nat) :
    (d.unwatch w).watchers[w']? = (d.takeWatcher w).2.watchers[w']? := by
  unfold unwatch
  split <;> rfl

theorem disposables_unwatch (w : Nat) : (d.unwatch w).disposables = d.disposables := by
  obtain ⟨ws, fs, h⟩ := unwatch_frame (d := d) w
  rw [h]

theorem tame_addWatcher (k : Nat) (w : Watcher) : d.Tame (d.addWatcher k w).2 := .of_eq rfl rfl

theorem tame_resolveFuture (k : Nat) : d.Tame (d.resolveFuture k).2 := by
  unfold resolveFuture
  dsimp only
  split <;> exact .of_eq rfl rfl

theorem tame_groupAdd (g m : Nat) : d.Tame (d.groupAdd g m).2 := by
  unfold groupAdd
  cases d.groups[g]? with
  | none => exact .of_eq rfl rfl
  | some cell => dsimp only; split <;> exact .of_eq rfl rfl

theorem tame_newGroup : d.Tame d.newGroup.2 := .of_eq rfl rfl

theorem tame_groupDetach (g key : Nat) : d.Tame (d.groupDetach g key) := .of_eq rfl rfl

theorem tame_groupTake (g : Nat) : d.Tame (d.groupTake g).2 := by
  unfold groupTake
  cases d.groups[g]? with
  | none => exact .of_eq rfl rfl
  | some cell => dsimp only; split <;> exact .of_eq rfl rfl

theorem tame_cancelTimer (t : TimerHandle) : d.Tame (d.cancelTimer t) := .of_eq rfl rfl

theorem tame_removeTask (c : Nat) (key : TimelineKey) : d.Tame (d.removeTask c key).2 := by
  unfold removeTask
  dsimp only
  split <;> exact .of_eq rfl rfl

theorem tame_dropFinalizer (r key : Nat) : d.Tame (d.dropFinalizer r key) := .of_eq rfl rfl

/-- Changing only a fiber's observers is tame. -/
theorem tame_modifyFiber_observers (f : Nat) (F : FiberBook → FiberBook)
    (hF : ∀ b, (F b).core = b.core) : d.Tame (d.modifyFiber f F) := by
  refine ⟨by simp [modifyFiber, modifyAt], fun g => ?_, fun k hk => hk⟩
  simp only [fiber, modifyFiber, modifyAt, Array.getElem?_modify]
  split
  · cases d.fibers[g]? <;> simp [hF]
  · rfl

theorem tame_removeObserver (f key : Nat) : d.Tame (d.removeObserver f key) :=
  tame_modifyFiber_observers f _ fun _ => rfl

theorem tame_takeObservers (f : Nat) : d.Tame (d.takeObservers f).2 :=
  tame_modifyFiber_observers f _ fun _ => rfl

theorem tame_addObserver (f cb : Nat) : d.Tame (d.addObserver f cb).2 := by
  unfold addObserver
  dsimp only
  refine Tame.trans ?_ (tame_newDisposable _)
  exact tame_modifyFiber_observers f _ fun _ => rfl

end Data

end FiberEffects
