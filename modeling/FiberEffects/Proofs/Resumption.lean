import FiberEffects.Proofs.Requests
import FiberEffects.Proofs.TiedContracts

namespace FiberEffects

namespace Data

theorem takeWatcher_of_stopped {d : Data} {w : Nat} (hw : d.watchers[w]? = some none) :
    d.takeWatcher w = (none, d) := by
  have hset : d.watchers.setIfInBounds w none = d.watchers := Array.ext_getElem? fun i => by
    rw [Array.getElem?_setIfInBounds]
    split
    · subst_vars
      rw [if_pos (Array.getElem?_eq_some_iff.1 hw).1, hw]
    · rfl
  simp [takeWatcher, hw, hset]

end Data

namespace Machine

variable {h : Heap}

theorem exec_dispose_unwatch {k w : Nat} (n : Nat)
    (hk : h.data.disposables[k]? = some ⟨false, some (.unwatch w)⟩) :
    exec (dispose (n + 1 + 1) k) h = (.ok (), h.setData ((h.data.takeDisposal k).2.unwatch w)) := by
  have ht : (h.data.takeDisposal k).1 = some (.unwatch w) := by
    simp [Data.takeDisposal, hk]
  simp only [dispose, release, exec_bind, exec_modifyGetData, exec_modifyData, ht]
  rfl

theorem exec_notify_stopped {w : Nat} (n : Nat) (ws : List Nat) (e : Effect)
    (hw : h.data.watchers[w]? = some none) :
    exec (notify (n + 1) (w :: ws) e) h = exec (notify n ws e) h := by
  simp only [notify, exec_bind, exec_modifyGetData, Data.takeWatcher_of_stopped hw]
  rfl

end Machine

namespace Heap

variable {h : Heap} {a : Option Release} {R D : Set Nat}

/-- A heap with no fibers and no watcher to resume one is settled. -/
theorem Settled.of_empty (hf : h.data.fibers = #[]) (hc : h.code = #[])
    (hw : ∀ w g, ¬ h.resumes w g) : h.Settled none ∅ ∅ := by
  have hb : ∀ g, h.book g = default := fun g => by simp [book, Data.fiber, hf]
  refine ⟨⟨by simp [hf, hc], fun g _ => by rw [hb]; rfl, fun g s hs => ?_,
    fun g hg => absurd hg (Set.notMem_empty g), fun w hw => absurd hw (Set.notMem_empty w)⟩,
    fun w g hr => absurd hr (hw w g)⟩
  rw [hb] at hs
  cases hs

theorem Settled.runCmd {α : Type} (hs : h.Settled none R D) (n : Nat) (q : Cmd α)
    (hfuel : (Machine.exec (Machine.runCmd n q) h).1 ≠ .error .outOfFuel) :
    (Machine.exec (Machine.runCmd n q) h).2.Settled none R D := by
  have hx := Machine.exec_of_triple ((Machine.tiedContracts n).runCmd q R D) h hs
  rcases hexec : Machine.exec (Machine.runCmd n q) h with ⟨e | v, h'⟩ <;>
    rw [hexec] at hx hfuel
  · cases e with
    | panic m => exact hx
    | outOfFuel => exact absurd rfl hfuel
  · exact hx

theorem Settled.resumer {w g : Nat} (hs : h.Settled none R D) (hr : h.resumes w g) :
    ∃ s, (h.book g).suspension = some s ∧ h.unsubscribes s.subscription w := by
  rcases hs.tied w g hr with ⟨k, hk, hu⟩ | hstop
  · obtain ⟨s, hsus, rfl⟩ := Option.map_eq_some_iff.1 hk
    exact ⟨s, hsus, hu⟩
  · simp at hstop

/-- A fiber has at most one watcher still to resume it. -/
theorem Settled.resumer_unique {w w' g : Nat} (hs : h.Settled none R D) (hr : h.resumes w g)
    (hr' : h.resumes w' g) : w' = w := by
  obtain ⟨s, hsus, hcell⟩ := hs.resumer hr
  obtain ⟨s', hsus', hcell'⟩ := hs.resumer hr'
  -- both are stopped by the one subscription of the fiber's suspension
  obtain rfl : s' = s := Option.some.inj (hsus'.symm.trans hsus)
  rw [unsubscribes] at hcell hcell'
  rw [hcell] at hcell'
  simp only [Option.some.injEq, DisposableCell.mk.injEq, Release.unwatch.injEq, true_and] at hcell'
  exact hcell'.symm

theorem Settled.stop {w : Nat} (hs : h.Settled a R D) (hw : h.data.watchers[w]? = some none) :
    h.Settled a R (insert w D) := by
  refine ⟨⟨hs.sizes, hs.fresh, hs.inert, hs.paused, fun w' hw' => ?_⟩, hs.tied⟩
  rcases Set.mem_insert_iff.1 hw' with rfl | hw'
  · exact hw
  · exact hs.stopped w' hw'

theorem Settled.dispose_subscription {w g : Nat} {s : Suspension} (hs : h.Settled none R D)
    (hr : h.resumes w g) (hsus : (h.book g).suspension = some s) (n : Nat) :
    (Machine.exec (Machine.dispose (n + 1 + 1) s.subscription) h).1 = .ok () ∧
      (Machine.exec (Machine.dispose (n + 1 + 1) s.subscription) h).2.Settled none R
        (insert w D) := by
  obtain ⟨s', hsus', hcell⟩ := hs.resumer hr
  obtain rfl : s = s' := Option.some.inj (hsus.symm.trans hsus')
  rw [Machine.exec_dispose_unwatch n hcell]
  have ht : (h.data.takeDisposal s.subscription).1 = some (.unwatch w) := by
    simp [Data.takeDisposal, show h.data.disposables[s.subscription]? = _ from hcell]
  -- the disposal releases the watcher's subscription, which restores every tie
  have hrel := (hs.weaken (h.data.takeDisposal s.subscription).1).takeDisposal
  rw [ht] at hrel
  have hdone := hrel.unwatch
  refine ⟨rfl, hdone.stop ?_⟩
  -- the watcher was live, so taking it leaves its slot stopped
  have hw : (h.data.takeDisposal s.subscription).2.watchers = h.data.watchers := by
    unfold Data.takeDisposal
    split <;> rfl
  have hlive : h.data.watchers[w]? = some (some (.resume g)) := hr
  simp [Data.watchers_unwatch, Data.watchers_takeWatcher, hw, hlive]

end Heap

namespace Machine

/-- Each suspension is resumed at most once, and never once abandoned. -/
theorem suspension_resumed_at_most_once {α : Type} {h : Heap} {D : Set Nat} (n : Nat)
    (q : Cmd α) (hs : h.Settled none ∅ D)
    (hfuel : (exec (runCmd n q) h).1 ≠ .error .outOfFuel) :
    let h' := (exec (runCmd n q) h).2
    h'.Settled none ∅ D ∧
      ∀ w g, h'.resumes w g → ∃ s, (h'.book g).suspension = some s ∧
        h'.unsubscribes s.subscription w ∧ (∀ w', h'.resumes w' g → w' = w) ∧
        ∀ m, (exec (dispose (m + 1 + 1) s.subscription) h').2.Settled none ∅ (insert w D) ∧
          ∀ (h'' : Heap) k ws e, h''.Settled none ∅ (insert w D) →
            exec (notify (k + 1) (w :: ws) e) h'' = exec (notify k ws e) h'' := by
  intro h'
  have hs' : h'.Settled none ∅ D := hs.runCmd n q hfuel
  refine ⟨hs', fun w g hr => ?_⟩
  obtain ⟨s, hsus, hu⟩ := hs'.resumer hr
  refine ⟨s, hsus, hu, fun w' hr' => hs'.resumer_unique hr hr', fun m =>
    ⟨(hs'.dispose_subscription hr hsus m).2, fun h'' k ws e hs'' => ?_⟩⟩
  exact exec_notify_stopped k ws e (hs''.stopped w (Set.mem_insert w D))

def interruptThenComplete : Cmd Val :=
  Prog.call (Request.newFuture none) fun _ =>
  Prog.call (Request.newFiber (Effect.await 0) .none ⟨{}, 0, 0, Flags.default⟩) fun _ =>
  Prog.call (Request.start 0) fun _ =>
  Prog.call (Request.interrupt 0 .none) fun _ =>
  Prog.call (Request.complete 0 (Effect.of .unit)) fun _ => .done .unit

theorem interruptThenComplete_settled :
    (default : Heap).Settled none ∅ ∅ ∧
      (exec (runCmd 40 interruptThenComplete) default).1 ≠ .error .outOfFuel ∧
      (exec (runCmd 40 interruptThenComplete) default).2.Settled none ∅ ∅ := by
  have hw : (default : Heap).data.watchers = #[] := rfl
  have hs : (default : Heap).Settled none ∅ ∅ :=
    .of_empty rfl rfl fun w g hr => by simp [Heap.resumes, hw] at hr
  have hok : (exec (runCmd 40 interruptThenComplete) default).1.toBool = true := by
    decide +kernel
  have hfuel : (exec (runCmd 40 interruptThenComplete) default).1 ≠ .error .outOfFuel :=
    Machine.ne_outOfFuel_of_toBool hok
  exact ⟨hs, hfuel, (suspension_resumed_at_most_once 40 interruptThenComplete hs hfuel).1⟩

end Machine

end FiberEffects
