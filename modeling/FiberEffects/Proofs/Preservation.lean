import FiberEffects.Proofs.Contracts

open Std.Do

set_option mvcgen.warning false

namespace FiberEffects

namespace Data

/-- The elementary changes the machine makes to the plain data, outside a program's own
requests, the making of futures and fibers, and the telling of a future's watchers. -/
inductive Change : Data → Data → Prop where
  | takeDisposal (d : Data) (k : Nat) : Change d (d.takeDisposal k).2
  | newDisposable (d : Data) (a : Option Release) : Change d (d.newDisposable a).2
  | unwatch (d : Data) (w : Nat) : Change d (d.unwatch w)
  | addWatcher (d : Data) (k : Nat) (w : Watcher) : Change d (d.addWatcher k w).2
  | newGroup (d : Data) : Change d d.newGroup.2
  | groupAdd (d : Data) (g m : Nat) : Change d (d.groupAdd g m).2
  | groupDetach (d : Data) (g key : Nat) : Change d (d.groupDetach g key)
  | groupTake (d : Data) (g : Nat) : Change d (d.groupTake g).2
  | addObserver (d : Data) (f cb : Nat) : Change d (d.addObserver f cb).2
  | removeObserver (d : Data) (f key : Nat) : Change d (d.removeObserver f key)
  | takeObservers (d : Data) (f : Nat) : Change d (d.takeObservers f).2
  | cancelTimer (d : Data) (t : TimerHandle) : Change d (d.cancelTimer t)
  | removeTask (d : Data) (c : Nat) (key : TimelineKey) : Change d (d.removeTask c key).2
  | dropFinalizer (d : Data) (r key : Nat) : Change d (d.dropFinalizer r key)

theorem resolveFuture_snd_of_none {d : Data} {k : Nat} (h : (d.resolveFuture k).1 = none) :
    (d.resolveFuture k).2 = d := by
  unfold resolveFuture at h ⊢
  by_cases hr : (d.future k).resolved <;> simp_all

end Data

namespace Heap

def pushFiber (h : Heap) (b : FiberBook) (c : FiberCode) : Heap :=
  { h with data := { h.data with fibers := h.data.fibers.push b }, code := h.code.push c }

def pushFuture (h : Heap) (r : Option Effect) : Heap :=
  { h with futures := h.futures.push r,
           data := { h.data with futures := h.data.futures.push { resolved := r.isSome } } }

def resolve (h : Heap) (k : Nat) (e : Effect) : Heap :=
  { h.setData (h.data.resolveFuture k).2 with futures := h.futures.modify k fun _ => some e }

/-- A property of heaps kept by every elementary change the machine makes other than a
resolution and the telling of a watcher: any change of one fiber's bookkeeping or code, a
program's change of the data through the guard, an elementary change of the data, a new fiber
or future, and keeping a callback, builder or effect. -/
structure Frames (Q : Heap → Prop) : Prop where
  updateBook : ∀ {h : Heap} {f : Nat} {F : FiberBook → FiberBook}, Q h → Q (h.updateBook f F)
  updateCode : ∀ {h : Heap} {f : Nat} {G : FiberCode → FiberCode}, Q h → Q (h.updateCode f G)
  keep : ∀ {h h' : Heap}, Q h → h'.data = h.data → h'.code = h.code → h'.futures = h.futures →
    Q h'
  guard : ∀ {h : Heap} (d : Data), Q h → Q (h.setData (h.data.guard d))
  change : ∀ {h : Heap} {d : Data}, Q h → h.data.Change d → Q (h.setData d)
  pushFiber : ∀ {h : Heap} (b : FiberBook) (c : FiberCode), Q h → Q (h.pushFiber b c)
  pushFuture : ∀ {h : Heap} (r : Option Effect), Q h → Q (h.pushFuture r)

/-- A property of heaps kept by every elementary change the machine makes, the resolution of a
pending future and the spending of any watcher included. -/
structure Stable (Q : Heap → Prop) : Prop extends Frames Q where
  spend : ∀ {h : Heap} (w : Nat), Q h → Q (h.setData (h.data.takeWatcher w).2)
  resolve : ∀ {h : Heap} {k : Nat} {ws : List Nat} (e : Effect), Q h →
    (h.data.resolveFuture k).1 = some ws → Q (h.resolve k e)

/-- A property of heaps kept by every elementary change the machine makes, where a watcher is
spent only while a list of watchers that `N` allows is told, at its head. A resolution leaves
the watchers it takes so allowed; what `N` allows stays allowed, and so does the rest of a list
once its head is told. -/
structure StableFor (Q : Heap → Prop) (N : List Nat → Heap → Prop) : Prop extends Frames Q where
  spend : ∀ {h : Heap} {w : Nat} {ws : List Nat}, Q h → N (w :: ws) h →
    Q (h.setData (h.data.takeWatcher w).2)
  resolve : ∀ {h : Heap} {k : Nat} {ws : List Nat} (e : Effect), Q h →
    (h.data.resolveFuture k).1 = some ws → Q (h.resolve k e) ∧ N ws (h.resolve k e)
  told : ∀ ws, Stable (N ws)
  tail : ∀ {h : Heap} {w : Nat} {ws : List Nat}, N (w :: ws) h → N ws h

theorem Stable.true : Stable fun _ => True where
  updateBook _ := trivial
  updateCode _ := trivial
  keep _ _ _ _ := trivial
  guard _ _ := trivial
  change _ _ := trivial
  pushFiber _ _ _ := trivial
  pushFuture _ _ := trivial
  spend _ _ := trivial
  resolve _ _ _ := trivial

theorem Stable.forAll {Q : Heap → Prop} (hQ : Stable Q) : StableFor Q fun _ _ => True where
  toFrames := hQ.toFrames
  spend hq _ := hQ.spend _ hq
  resolve e hq hr := ⟨hQ.resolve e hq hr, trivial⟩
  told _ := Stable.true
  tail _ := trivial

end Heap

namespace Machine

abbrev Preserves (Q : Heap → Prop) {α : Type} (m : Machine α) : Prop :=
  ⦃fun h => ⌜Q h⌝⦄ m ⦃post⟨fun _ h => ⌜Q h⌝, fun e h => ⌜e.Leaves Q h⌝⟩⦄

abbrev Tells (Q P : Heap → Prop) {α : Type} (m : Machine α) : Prop :=
  ⦃fun h => ⌜Q h ∧ P h⌝⦄ m ⦃post⟨fun _ h => ⌜Q h⌝, fun e h => ⌜e.Leaves Q h⌝⟩⦄

variable {Q : Heap → Prop} {N : List Nat → Heap → Prop} {n : Nat}

theorem Preserves.and {P : Heap → Prop} {α : Type} {m : Machine α} (hQ : Preserves Q m)
    (hP : Preserves P m) : Preserves (fun h => Q h ∧ P h) m := by
  refine triple_of_exec fun h hp => ?_
  have hq := exec_of_triple hQ h hp.1
  have hp' := exec_of_triple hP h hp.2
  revert hq hp'
  rcases exec m h with ⟨_ | _, h'⟩
  · exact Fault.Leaves.and
  · exact And.intro

theorem runCmd_succ_preserves {α : Type} (p : Cmd α) (hperf : ∀ r, Preserves Q (perform n r))
    (hrun : ∀ q : Cmd α, Preserves Q (runCmd n q)) : Preserves Q (runCmd (n + 1) p) := by
  cases p with
  | done a => rw [runCmd]; mvcgen
  | panic m => rw [runCmd]; mvcgen
  | call r k => rw [runCmd]; mvcgen [hperf, hrun]

theorem dispose_succ_preserves (hQ : Heap.Frames Q) (k : Nat) (hrel : ∀ r, Preserves Q (release n r)) :
    Preserves Q (dispose (n + 1) k) := by
  rw [dispose]
  mvcgen [hrel] with
  | vc1 h hq _ | vc2 h hq _ _ => exact hQ.change hq (.takeDisposal _ _)

theorem release_succ_preserves (hQ : Heap.Frames Q) (r : Release) (hperf : ∀ r, Preserves Q (perform n r))
    (hdisp : ∀ k, Preserves Q (dispose n k)) (hall : ∀ ks, Preserves Q (disposeAll n ks)) :
    Preserves Q (release (n + 1) r) := by
  cases r with
  | callback fn => rw [release, discard_eq]; mvcgen [hperf]
  | unwatch w =>
    rw [release]
    mvcgen with | vc1 h hq => exact hQ.change hq (.unwatch _ _)
  | detach g key =>
    rw [release]
    mvcgen with | vc1 h hq => exact hQ.change hq (.groupDetach _ _ _)
  | unobserve f key =>
    rw [release]
    mvcgen with | vc1 h hq => exact hQ.change hq (.removeObserver _ _ _)
  | cancelTimer t =>
    rw [release]
    mvcgen with | vc1 h hq => exact hQ.change hq (.cancelTimer _ _)
  | removeTask c key =>
    rw [release]
    mvcgen [hdisp] with
    | vc1 h hq _ _ | vc2 h hq _ => exact hQ.change hq (.removeTask _ _ _)
  | disposeGroup g =>
    rw [release]
    mvcgen [hall] with | vc1 h hq => exact hQ.change hq (.groupTake _ _)
  | dropFinalizer res key =>
    rw [release]
    mvcgen with | vc1 h hq => exact hQ.change hq (.dropFinalizer _ _ _)

theorem disposeAll_succ_preserves (ks : List Nat) (hdisp : ∀ k, Preserves Q (dispose n k))
    (hall : ∀ ks, Preserves Q (disposeAll n ks)) : Preserves Q (disposeAll (n + 1) ks) := by
  cases ks with
  | nil => rw [disposeAll]; mvcgen
  | cons k ks => rw [disposeAll]; mvcgen [hdisp, hall]

theorem groupAdd_succ_preserves (hQ : Heap.Frames Q) (g m : Nat) (hdisp : ∀ k, Preserves Q (dispose n k)) :
    Preserves Q (groupAdd (n + 1) g m) := by
  rw [groupAdd]
  mvcgen [hdisp] with
  | vc1 h hq _ _ => exact hQ.change (hQ.change hq (.groupAdd _ _ _)) (.newDisposable _ _)
  | vc2 h hq _ => exact hQ.change hq (.groupAdd _ _ _)
  | vc3 h hq => exact hQ.change hq (.newDisposable _ _)

theorem callAll_succ_preserves (ks : List Nat) (v : Val) (hperf : ∀ r, Preserves Q (perform n r))
    (hall : ∀ ks v, Preserves Q (callAll n ks v)) : Preserves Q (callAll (n + 1) ks v) := by
  cases ks with
  | nil => rw [callAll]; mvcgen
  | cons k ks => rw [callAll, discard_eq]; mvcgen [hperf, hall]

theorem completeFuture_succ_preserves (hQ : Heap.StableFor Q N) (k : Nat) (e : Effect)
    (hnotify : ∀ ws e, Tells Q (N ws) (notify n ws e)) : Preserves Q (completeFuture (n + 1) k e) := by
  rw [completeFuture]
  mvcgen [hnotify] with
  | vc1 h hq hr => rwa [Data.resolveFuture_snd_of_none hr]
  | vc2 h hq ws hr t => exact hQ.resolve e hq hr

theorem notify_succ_preserves (hQ : Heap.StableFor Q N) (ws : List Nat) (e : Effect)
    (hperf : ∀ r, Preserves Q (perform n r)) (hresume : ∀ f e, Preserves Q (resume n f e))
    (hnotify : ∀ ws e, Tells Q (N ws) (notify n ws e))
    (htold : ∀ ws, (∀ r, Preserves (N ws) (perform n r)) ∧ ∀ f e, Preserves (N ws) (resume n f e)) :
    Tells Q (N ws) (notify (n + 1) ws e) := by
  cases ws with
  | nil =>
    rw [notify]
    mvcgen
    exact ‹Q _ ∧ N [] _›.1
  | cons w ws =>
    have hp : ∀ r, Preserves (fun h => Q h ∧ N ws h) (perform n r) :=
      fun r => (hperf r).and ((htold ws).1 r)
    have hr : ∀ f e, Preserves (fun h => Q h ∧ N ws h) (resume n f e) :=
      fun f e => (hresume f e).and ((htold ws).2 f e)
    rw [notify]
    simp only [discard_eq]
    mvcgen [hp, hr, hnotify]
    -- the watcher is spent while the list it heads is allowed; a panic keeps `Q` of the pair
    all_goals first
      | exact ⟨hQ.spend ‹Q _ ∧ N _ _›.1 ‹Q _ ∧ N _ _›.2,
          (hQ.told ws).spend _ (hQ.tail ‹Q _ ∧ N _ _›.2)⟩
      | exact fun he => he.mono fun _ hq => hq.1

theorem resume_succ_preserves (hQ : Heap.Frames Q) (f : Nat) (e : Effect) (hdisp : ∀ k, Preserves Q (dispose n k))
    (hrun : ∀ f, Preserves Q (runLoop n f)) : Preserves Q (resume (n + 1) f e) := by
  rw [resume]
  mvcgen [hdisp, hrun] with solve_by_elim [hQ.updateBook, hQ.updateCode]

theorem interruptAs_succ_preserves (hQ : Heap.Frames Q) (f : Nat) (requester : FiberId)
    (hdisp : ∀ k, Preserves Q (dispose n k)) (hrun : ∀ f, Preserves Q (runLoop n f)) :
    Preserves Q (interruptAs (n + 1) f requester) := by
  rw [interruptAs]
  mvcgen [hdisp, hrun] with solve_by_elim [hQ.updateBook, hQ.updateCode]

theorem start_succ_preserves (hQ : Heap.Frames Q) (f : Nat) (hrun : ∀ f, Preserves Q (runLoop n f)) :
    Preserves Q (start (n + 1) f) := by
  rw [start]
  mvcgen [hrun] with solve_by_elim [hQ.updateBook]

theorem runLoop_succ_preserves (hQ : Heap.Frames Q) (f : Nat) (hturns : ∀ f, Preserves Q (turns n f)) :
    Preserves Q (runLoop (n + 1) f) := by
  rw [runLoop]
  mvcgen [hturns] with solve_by_elim [hQ.updateBook]

theorem turns_succ_preserves (hQ : Heap.Frames Q) (f : Nat) (hstep : ∀ f e, Preserves Q (step n f e))
    (hdone : ∀ f x, Preserves Q (done n f x)) (hturns : ∀ f, Preserves Q (turns n f)) :
    Preserves Q (turns (n + 1) f) := by
  rw [turns]
  mvcgen [hstep, hdone, hturns] with solve_by_elim [hQ.updateBook, hQ.updateCode]

theorem step_succ_preserves (hQ : Heap.Frames Q) (f : Nat) (e : Effect)
    (hrun : ∀ {β : Type} (q : Cmd β), Preserves Q (runCmd n q))
    (hcw : ∀ f v, Preserves Q (continueWith n f v)) (hcc : ∀ f c, Preserves Q (continueWithCause n f c))
    (hsus : ∀ f k, Preserves Q (suspendOn n f k)) : Preserves Q (step (n + 1) f e) := by
  rw [step]
  mvcgen [hrun, hcw, hcc, hsus, pushFlags] with solve_by_elim [hQ.updateBook, hQ.updateCode]

theorem continueWith_succ_preserves (hQ : Heap.Frames Q) (f : Nat) (v : Val)
    (hrun : ∀ {β : Type} (q : Cmd β), Preserves Q (runCmd n q))
    (hcw : ∀ f v, Preserves Q (continueWith n f v)) (hcc : ∀ f c, Preserves Q (continueWithCause n f c)) :
    Preserves Q (continueWith (n + 1) f v) := by
  rw [continueWith]
  mvcgen [hrun, hcw, hcc] with solve_by_elim [hQ.updateBook, hQ.updateCode]

theorem continueWithCause_succ_preserves (hQ : Heap.Frames Q) (f : Nat) (c : Cause Json)
    (hrun : ∀ {β : Type} (q : Cmd β), Preserves Q (runCmd n q))
    (hcc : ∀ f c, Preserves Q (continueWithCause n f c)) :
    Preserves Q (continueWithCause (n + 1) f c) := by
  rw [continueWithCause]
  mvcgen [hrun, hcc] with solve_by_elim [hQ.updateBook, hQ.updateCode]

theorem suspendOn_succ_preserves (hQ : Heap.Frames Q) (f k : Nat) (hadd : ∀ g m, Preserves Q (groupAdd n g m)) :
    Preserves Q (suspendOn (n + 1) f k) := by
  rw [suspendOn]
  mvcgen [hadd] with
    solve_by_elim [hQ.updateBook, hQ.change, Data.Change.addWatcher, Data.Change.newDisposable]

theorem done_succ_preserves (hQ : Heap.Frames Q) (f : Nat) (x : Exit) (hcomp : ∀ f x, Preserves Q (complete n f x)) :
    Preserves Q (done (n + 1) f x) := by
  rw [done]
  mvcgen [hcomp] with solve_by_elim [hQ.updateBook, hQ.updateCode]

theorem complete_succ_preserves (hQ : Heap.Frames Q) (f : Nat) (x : Exit) (hdisp : ∀ ks, Preserves Q (disposeAll n ks))
    (hcall : ∀ ks v, Preserves Q (callAll n ks v)) : Preserves Q (complete (n + 1) f x) := by
  rw [complete]
  mvcgen [hdisp, hcall] with
    solve_by_elim [hQ.updateBook, hQ.updateCode, hQ.change, Data.Change.groupTake,
      Data.Change.takeObservers]

theorem perform_succ_preserves (hQ : Heap.Frames Q) (r : Request)
    (hrun : ∀ {β : Type} (q : Cmd β), Preserves Q (runCmd n q))
    (hdisp : ∀ k, Preserves Q (dispose n k)) (hcomp : ∀ k e, Preserves Q (completeFuture n k e))
    (hstart : ∀ f, Preserves Q (start n f)) (hint : ∀ f r, Preserves Q (interruptAs n f r))
    (hperf : ∀ r, Preserves Q (perform n r)) : Preserves Q (perform (n + 1) r) := by
  cases r with
  | data g =>
    rw [perform]
    mvcgen with | vc1 h hq => exact hQ.guard _ hq
  | keepFn g | keepBuilder g | keepEffect g =>
    rw [perform]
    mvcgen with | vc1 h hq t => exact hQ.keep hq rfl rfl rfl
  | call k arg => rw [perform]; mvcgen [hrun]
  | build k arg =>
    rw [perform]
    mvcgen [hrun] with
    | vc2 _ _ _ _ _ _ _ hq t | vc3 _ hq _ _ t => exact hQ.keep hq rfl rfl rfl
  | dispose k => rw [perform]; mvcgen [hdisp]
  | newFuture e =>
    rw [perform]
    mvcgen [newFuture] with | vc1 h hq t => exact hQ.pushFuture e hq
  | complete k e => rw [perform]; mvcgen [hcomp]
  | newFiber e id opts =>
    rw [perform]
    mvcgen [newFiber] with | vc1 h hq t => exact hQ.pushFiber _ _ (hQ.change hq (.newGroup _))
  | start k => rw [perform]; mvcgen [hstart]
  | interrupt k x => rw [perform]; mvcgen [hint]
  | observe k cb =>
    rw [perform]
    mvcgen with | vc1 h hq => exact hQ.change hq (.addObserver _ _ _)
  | watch k cb =>
    rw [perform]
    mvcgen [hperf]
    all_goals exact hQ.change ‹Q _› (.addWatcher _ _ _)

/-- Every function of the machine, given fuel `n`, keeps `Q`; telling a list of watchers does
when `N` allows the list. -/
structure Preserving (Q : Heap → Prop) (N : List Nat → Heap → Prop) (n : Nat) : Prop where
  runCmd : ∀ {β : Type} (q : Cmd β), Preserves Q (runCmd n q)
  perform : ∀ r, Preserves Q (perform n r)
  dispose : ∀ k, Preserves Q (dispose n k)
  release : ∀ r, Preserves Q (release n r)
  disposeAll : ∀ ks, Preserves Q (disposeAll n ks)
  groupAdd : ∀ g m, Preserves Q (groupAdd n g m)
  callAll : ∀ ks v, Preserves Q (callAll n ks v)
  completeFuture : ∀ k e, Preserves Q (completeFuture n k e)
  notify : ∀ ws e, Tells Q (N ws) (notify n ws e)
  resume : ∀ f e, Preserves Q (resume n f e)
  interruptAs : ∀ f x, Preserves Q (interruptAs n f x)
  start : ∀ f, Preserves Q (start n f)
  runLoop : ∀ f, Preserves Q (runLoop n f)
  turns : ∀ f, Preserves Q (turns n f)
  step : ∀ f e, Preserves Q (step n f e)
  suspendOn : ∀ f k, Preserves Q (suspendOn n f k)
  continueWith : ∀ f v, Preserves Q (continueWith n f v)
  continueWithCause : ∀ f c, Preserves Q (continueWithCause n f c)
  done : ∀ f x, Preserves Q (done n f x)
  complete : ∀ f x, Preserves Q (complete n f x)

theorem Preserving.zero : Preserving Q N 0 where
  runCmd _ := by rw [Machine.runCmd]; mvcgen
  perform _ := by rw [Machine.perform]; mvcgen
  dispose _ := by rw [Machine.dispose]; mvcgen
  release _ := by rw [Machine.release]; mvcgen
  disposeAll _ := by rw [Machine.disposeAll]; mvcgen
  groupAdd _ _ := by rw [Machine.groupAdd]; mvcgen
  callAll _ _ := by rw [Machine.callAll]; mvcgen
  completeFuture _ _ := by rw [Machine.completeFuture]; mvcgen
  notify _ _ := by rw [Machine.notify]; mvcgen
  resume _ _ := by rw [Machine.resume]; mvcgen
  interruptAs _ _ := by rw [Machine.interruptAs]; mvcgen
  start _ := by rw [Machine.start]; mvcgen
  runLoop _ := by rw [Machine.runLoop]; mvcgen
  turns _ := by rw [Machine.turns]; mvcgen
  step _ _ := by rw [Machine.step]; mvcgen
  suspendOn _ _ := by rw [Machine.suspendOn]; mvcgen
  continueWith _ _ := by rw [Machine.continueWith]; mvcgen
  continueWithCause _ _ := by rw [Machine.continueWithCause]; mvcgen
  done _ _ := by rw [Machine.done]; mvcgen
  complete _ _ := by rw [Machine.complete]; mvcgen

theorem Preserving.succ (hQ : Heap.StableFor Q N) (hc : Preserving Q N n)
    (htold : ∀ ws, Preserving (N ws) (fun _ _ => True) n) : Preserving Q N (n + 1) where
  runCmd q := runCmd_succ_preserves q hc.perform hc.runCmd
  perform r := perform_succ_preserves hQ.toFrames r hc.runCmd hc.dispose hc.completeFuture hc.start
    hc.interruptAs hc.perform
  dispose k := dispose_succ_preserves hQ.toFrames k hc.release
  release r := release_succ_preserves hQ.toFrames r hc.perform hc.dispose hc.disposeAll
  disposeAll ks := disposeAll_succ_preserves ks hc.dispose hc.disposeAll
  groupAdd g m := groupAdd_succ_preserves hQ.toFrames g m hc.dispose
  callAll ks v := callAll_succ_preserves ks v hc.perform hc.callAll
  completeFuture k e := completeFuture_succ_preserves hQ k e hc.notify
  notify ws e := notify_succ_preserves hQ ws e hc.perform hc.resume hc.notify fun ws =>
    ⟨(htold ws).perform, (htold ws).resume⟩
  resume f e := resume_succ_preserves hQ.toFrames f e hc.dispose hc.runLoop
  interruptAs f x := interruptAs_succ_preserves hQ.toFrames f x hc.dispose hc.runLoop
  start f := start_succ_preserves hQ.toFrames f hc.runLoop
  runLoop f := runLoop_succ_preserves hQ.toFrames f hc.turns
  turns f := turns_succ_preserves hQ.toFrames f hc.step hc.done hc.turns
  step f e := step_succ_preserves hQ.toFrames f e hc.runCmd hc.continueWith hc.continueWithCause hc.suspendOn
  suspendOn f k := suspendOn_succ_preserves hQ.toFrames f k hc.groupAdd
  continueWith f v := continueWith_succ_preserves hQ.toFrames f v hc.runCmd hc.continueWith
    hc.continueWithCause
  continueWithCause f c := continueWithCause_succ_preserves hQ.toFrames f c hc.runCmd hc.continueWithCause
  done f x := done_succ_preserves hQ.toFrames f x hc.complete
  complete f x := complete_succ_preserves hQ.toFrames f x hc.disposeAll hc.callAll

theorem preserving : ∀ (n : Nat) {Q : Heap → Prop} {N : List Nat → Heap → Prop},
    Heap.StableFor Q N → Preserving Q N n
  | 0, _, _, _ => .zero
  | n + 1, _, _, hQ => (preserving n hQ).succ hQ fun ws => preserving n (hQ.told ws).forAll

/-- A run that ends in `Q` with a value or a panic, and does not run out of fuel, ends in `Q`. -/
theorem keeps_of_exec {α : Type} {m : Machine α} {h : Heap}
    (hx : match exec m h with
      | (.ok _, h') => Q h'
      | (.error e, h') => e.Leaves Q h')
    (hfuel : (exec m h).1 ≠ .error .outOfFuel) : Q (exec m h).2 := by
  rcases hexec : Machine.exec m h with ⟨e | v, h'⟩ <;> rw [hexec] at hx hfuel
  · cases e with
    | panic m => exact hx
    | outOfFuel => exact absurd rfl hfuel
  · exact hx

theorem Preserves.exec {α : Type} {m : Machine α} (hm : Preserves Q m) {h : Heap} (hq : Q h)
    (hfuel : (exec m h).1 ≠ .error .outOfFuel) : Q (exec m h).2 :=
  keeps_of_exec (exec_of_triple hm h hq) hfuel

theorem Tells.exec {P : Heap → Prop} {α : Type} {m : Machine α} (hm : Tells Q P m) {h : Heap}
    (hq : Q h) (hp : P h) (hfuel : (exec m h).1 ≠ .error .outOfFuel) : Q (exec m h).2 :=
  keeps_of_exec (exec_of_triple hm h ⟨hq, hp⟩) hfuel

theorem Preserves.exec_bind {β γ : Type} {x : Machine β} {k : β → Machine γ} {c : γ}
    (hx : Preserves Q x) {h : Heap} (hq : Q h) (hres : (Machine.exec (x >>= k) h).1 = .ok c) :
    ∃ a h', Q h' ∧ Machine.exec (x >>= k) h = Machine.exec (k a) h' := by
  rw [Machine.exec_bind] at hres ⊢
  rcases hexec : Machine.exec x h with ⟨_ | a, h'⟩ <;> rw [hexec] at hres
  · cases hres
  · refine ⟨a, h', ?_, rfl⟩
    have hq' := hx.exec hq (by rw [hexec]; exact fun he => by cases he)
    rwa [hexec] at hq'

theorem exec_runCmd_preserves (hQ : Heap.StableFor Q N) {α : Type} {h : Heap} (n : Nat) (q : Cmd α)
    (hq : Q h) (hfuel : (exec (runCmd n q) h).1 ≠ .error .outOfFuel) : Q (exec (runCmd n q) h).2 :=
  ((preserving n hQ).runCmd q).exec hq hfuel

end Machine
end FiberEffects
