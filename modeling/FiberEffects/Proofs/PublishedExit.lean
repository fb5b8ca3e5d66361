import FiberEffects.Proofs.Contracts

open Std.Do

set_option mvcgen.warning false

namespace FiberEffects

namespace Heap

variable {h : Heap} {f g : Nat} {x : Exit}

def Published (h : Heap) (f : Nat) (x : Exit) : Prop := (h.book f).exit = some x

theorem Published.lt (hp : h.Published f x) : f < h.data.fibers.size := by
  by_contra hge
  have hb : h.book f = default := by
    simp [book, Data.fiber, Array.getElem?_eq_none (Nat.le_of_not_lt hge)]
  rw [Published, hb] at hp
  cases hp

theorem Published.setData {d : Data} (hp : h.Published f x) (ht : h.data.Tame d) :
    (h.setData d).Published f x :=
  (congrArg FiberBook.exit (ht.core f)).trans hp

theorem Published.updateBook {F : FiberBook → FiberBook} (hp : h.Published f x)
    (hF : (F (h.book g)).exit = (h.book g).exit) : (h.updateBook g F).Published f x := by
  by_cases hgf : g = f
  · subst hgf
    unfold Published
    rw [book_updateBook_same]
    split
    · exact hF.trans hp
    · exact hp
  · unfold Published
    rw [book_updateBook_of_ne F hgf]
    exact hp

theorem Published.updateBook_of_ne {F : FiberBook → FiberBook} (hp : h.Published f x)
    (hgf : g ≠ f) : (h.updateBook g F).Published f x := by
  unfold Published
  rw [book_updateBook_of_ne F hgf]
  exact hp

theorem Published.pushFiber {h' : Heap} {b : FiberBook} (hp : h.Published f x)
    (hd : h'.data = { h.data with fibers := h.data.fibers.push b }) : h'.Published f x := by
  have hf := hp.lt
  unfold Published
  simp only [book, Data.fiber, hd, Array.getElem?_push, Nat.ne_of_lt hf, if_false]
  exact hp

theorem Published.updateCode {G : FiberCode → FiberCode} (hp : h.Published f x) :
    (h.updateCode g G).Published f x := hp

end Heap

namespace Machine

def KeepsExit {α : Type} (m : Machine α) : Prop :=
  ∀ f x, ⦃fun h => ⌜h.Published f x⌝⦄ m
    ⦃post⟨fun _ h => ⌜h.Published f x⌝, fun e h => ⌜e.Leaves (·.Published f x) h⌝⟩⦄

variable {n : Nat}

theorem runCmd_succ_exit {α : Type} (p : Cmd α) (hperf : ∀ r, KeepsExit (perform n r))
    (hrun : ∀ q : Cmd α, KeepsExit (runCmd n q)) : KeepsExit (runCmd (n + 1) p) := by
  intro f x
  have hp := fun r => hperf r f x
  have hr := fun q => hrun q f x
  cases p with
  | done a => rw [runCmd]; mvcgen
  | panic m => rw [runCmd]; mvcgen
  | call r k => rw [runCmd]; mvcgen [hp, hr]

theorem dispose_succ_exit (k : Nat) (hrel : ∀ r, KeepsExit (release n r)) :
    KeepsExit (dispose (n + 1) k) := by
  intro f x
  have hr := fun r => hrel r f x
  rw [dispose]
  mvcgen [hr] with
  | vc1 hpre _ | vc2 hpre _ _ => exact hpre.setData (Data.tame_takeDisposal k)

theorem release_succ_exit (r : Release) (hperf : ∀ r, KeepsExit (perform n r))
    (hdisp : ∀ k, KeepsExit (dispose n k)) (hall : ∀ ks, KeepsExit (disposeAll n ks)) :
    KeepsExit (release (n + 1) r) := by
  intro f x
  have hp := fun r => hperf r f x
  have hd := fun k => hdisp k f x
  have ha := fun ks => hall ks f x
  cases r with
  | callback fn => rw [release, discard_eq]; mvcgen [hp]
  | unwatch w =>
    rw [release]
    mvcgen with
    | vc1 hpre => exact hpre.setData (Data.tame_unwatch w)
  | detach g key => rw [release]; mvcgen
  | unobserve g key =>
    rw [release]
    mvcgen with
    | vc1 hpre => exact hpre.setData (Data.tame_removeObserver g key)
  | cancelTimer t => rw [release]; mvcgen
  | removeTask c key =>
    rw [release]
    mvcgen [hd] with
    | vc1 hpre _ _ | vc2 hpre _ => exact hpre.setData (Data.tame_removeTask c key)
  | disposeGroup g =>
    rw [release]
    mvcgen [ha] with
    | vc1 hpre => exact hpre.setData (Data.tame_groupTake g)
  | dropFinalizer res key => rw [release]; mvcgen

theorem disposeAll_succ_exit (ks : List Nat) (hdisp : ∀ k, KeepsExit (dispose n k))
    (hall : ∀ ks, KeepsExit (disposeAll n ks)) : KeepsExit (disposeAll (n + 1) ks) := by
  intro f x
  have hd := fun k => hdisp k f x
  have ha := fun ks => hall ks f x
  cases ks with
  | nil => rw [disposeAll]; mvcgen
  | cons k ks => rw [disposeAll]; mvcgen [hd, ha]

theorem groupAdd_succ_exit (g m : Nat) (hdisp : ∀ k, KeepsExit (dispose n k)) :
    KeepsExit (groupAdd (n + 1) g m) := by
  intro f x
  have hd := fun k => hdisp k f x
  rw [groupAdd]
  mvcgen [hd] with
  | vc1 hpre _ _ => exact (hpre.setData (Data.tame_groupAdd g m)).setData (Data.tame_newDisposable _)
  | vc2 hpre _ => exact hpre.setData (Data.tame_groupAdd g m)

theorem callAll_succ_exit (ks : List Nat) (v : Val) (hperf : ∀ r, KeepsExit (perform n r))
    (hall : ∀ ks v, KeepsExit (callAll n ks v)) : KeepsExit (callAll (n + 1) ks v) := by
  intro f x
  have hp := fun r => hperf r f x
  have ha := fun ks v => hall ks v f x
  cases ks with
  | nil => rw [callAll]; mvcgen
  | cons k ks => rw [callAll, discard_eq]; mvcgen [hp, ha]

theorem completeFuture_succ_exit (k : Nat) (e : Effect)
    (hnotify : ∀ ws e, KeepsExit (notify n ws e)) : KeepsExit (completeFuture (n + 1) k e) := by
  intro f x
  have hn := fun ws e => hnotify ws e f x
  rw [completeFuture]
  mvcgen [hn] with
  | vc1 hpre _ => exact hpre.setData (Data.tame_resolveFuture k)
  | vc2 hpre _ _ _ => exact hpre.setData (Data.tame_resolveFuture k)

theorem notify_succ_exit (ws : List Nat) (e : Effect) (hperf : ∀ r, KeepsExit (perform n r))
    (hresume : ∀ f e, KeepsExit (resume n f e)) (hnotify : ∀ ws e, KeepsExit (notify n ws e)) :
    KeepsExit (notify (n + 1) ws e) := by
  intro f x
  have hp := fun r => hperf r f x
  have hr := fun f' e => hresume f' e f x
  have hn := fun ws e => hnotify ws e f x
  cases ws with
  | nil => rw [notify]; mvcgen
  | cons k ws =>
    rw [notify]
    simp only [discard_eq]
    mvcgen [hp, hr, hn]
    all_goals exact (‹Heap.Published _ _ _›).setData (Data.tame_takeWatcher k)

theorem resume_succ_exit (g : Nat) (e : Effect) (hdisp : ∀ k, KeepsExit (dispose n k))
    (hrun : ∀ f, KeepsExit (runLoop n f)) : KeepsExit (resume (n + 1) g e) := by
  intro f x
  have hd := fun k => hdisp k f x
  have hl := fun f' => hrun f' f x
  rw [resume]
  mvcgen [hd, hl] with
  | vc2 hpre _ _ => exact hpre.updateBook rfl

theorem interruptAs_succ_exit (g : Nat) (requester : FiberId) (hdisp : ∀ k, KeepsExit (dispose n k))
    (hrun : ∀ f, KeepsExit (runLoop n f)) : KeepsExit (interruptAs (n + 1) g requester) := by
  intro f x
  have hd := fun k => hdisp k f x
  have hl := fun f' => hrun f' f x
  rw [interruptAs]
  mvcgen [hd, hl] with
  | vc2 hpre _ _ _ | vc6 hpre _ _ => exact hpre.updateBook rfl
  | vc3 hpre _ _ _ _ => exact (hpre.updateBook rfl).updateBook rfl
  | vc5 hpost => exact (hpost.updateBook rfl).updateCode

theorem start_succ_exit (g : Nat) (hrun : ∀ f, KeepsExit (runLoop n f)) :
    KeepsExit (start (n + 1) g) := by
  intro f x
  have hl := fun f' => hrun f' f x
  rw [start]
  mvcgen [hl] with
  | vc2 hpre _ => exact hpre.updateBook rfl

theorem runLoop_succ_exit (g : Nat) (hturns : ∀ f, KeepsExit (turns n f)) :
    KeepsExit (runLoop (n + 1) g) := by
  intro f x
  have ht := fun f' => hturns f' f x
  rw [runLoop]
  mvcgen [ht] with
  | vc2 hpre _ => exact hpre.updateBook rfl
  | vc3 hpost => exact hpost.updateBook rfl

theorem turns_succ_exit (g : Nat) (hstep : ∀ f e, KeepsExit (step n f e))
    (hdone : ∀ f x, KeepsExit (done n f x)) (hturns : ∀ f, KeepsExit (turns n f)) :
    KeepsExit (turns (n + 1) g) := by
  intro f x
  have hs := fun f' e => hstep f' e f x
  have hd := fun f' x' => hdone f' x' f x
  have ht := fun f' => hturns f' f x
  rw [turns]
  mvcgen [hs, hd, ht] with
  | vc2 hpre _ _ => exact hpre.updateCode.updateBook (by simp)

theorem step_succ_exit (g : Nat) (e : Effect) (hrun : ∀ {β : Type} (q : Cmd β), KeepsExit (runCmd n q))
    (hcw : ∀ f v, KeepsExit (continueWith n f v)) (hcc : ∀ f c, KeepsExit (continueWithCause n f c))
    (hsus : ∀ f k, KeepsExit (suspendOn n f k)) : KeepsExit (step (n + 1) g e) := by
  intro f x
  have hr := fun {β : Type} (q : Cmd β) => hrun q f x
  have hv := fun f' v => hcw f' v f x
  have hc := fun f' c => hcc f' c f x
  have hk := fun f' k => hsus f' k f x
  rw [step]
  mvcgen [hr, hv, hc, hk, pushFlags] with
  | vc17 hpre | vc20 hpre _ _ | vc22 hpre _ _ | vc25 hpre => exact (hpre.updateBook rfl).updateCode
  | vc19 hpre _ _ | vc21 hpre _ _ => exact (hpre.updateCode.updateBook rfl).updateCode

theorem continueWith_succ_exit (g : Nat) (v : Val) (hrun : ∀ {β : Type} (q : Cmd β), KeepsExit (runCmd n q))
    (hcw : ∀ f v, KeepsExit (continueWith n f v)) (hcc : ∀ f c, KeepsExit (continueWithCause n f c)) :
    KeepsExit (continueWith (n + 1) g v) := by
  intro f x
  have hr := fun {β : Type} (q : Cmd β) => hrun q f x
  have hv := fun f' v => hcw f' v f x
  have hc := fun f' c => hcc f' c f x
  rw [continueWith]
  mvcgen [hr, hv, hc] with
  | vc6 hpre _ _ _ | vc7 hpre _ _ | vc8 hpre _ _ => exact hpre.updateCode.updateBook (by simp)

theorem continueWithCause_succ_exit (g : Nat) (c : Cause Json)
    (hrun : ∀ {β : Type} (q : Cmd β), KeepsExit (runCmd n q))
    (hcc : ∀ f c, KeepsExit (continueWithCause n f c)) :
    KeepsExit (continueWithCause (n + 1) g c) := by
  intro f x
  have hr := fun {β : Type} (q : Cmd β) => hrun q f x
  have hc := fun f' c => hcc f' c f x
  rw [continueWithCause]
  mvcgen [hr, hc] with
  | vc4 hpre _ _ | vc5 hpre _ _ _ | vc6 hpre _ _ _ | vc7 hpre _ _ | vc8 hpre _ _ =>
    exact hpre.updateCode.updateBook (by simp)

theorem suspendOn_succ_exit (g k : Nat) (hadd : ∀ g m, KeepsExit (groupAdd n g m)) :
    KeepsExit (suspendOn (n + 1) g k) := by
  intro f x
  have ha := fun g m => hadd g m f x
  rw [suspendOn]
  mvcgen [ha] with
  | vc3 hpost => exact hpost.updateBook rfl

theorem done_succ_exit (g : Nat) (y : Exit) (hcomp : ∀ f x, KeepsExit (complete n f x)) :
    KeepsExit (done (n + 1) g y) := by
  intro f x
  have hc := fun f' x' => hcomp f' x' f x
  rw [done]
  mvcgen [hc] with
  | vc1 hpre _ _ => exact hpre.updateBook rfl
  | vc3 hpre _ _ => exact (hpre.updateBook rfl).updateCode

theorem complete_succ_exit (g : Nat) (y : Exit) (hdisp : ∀ ks, KeepsExit (disposeAll n ks))
    (hcall : ∀ ks v, KeepsExit (callAll n ks v)) : KeepsExit (complete (n + 1) g y) := by
  intro f x
  have hd := fun ks => hdisp ks f x
  have hc := fun ks v => hcall ks v f x
  rw [complete]
  mvcgen [hd, hc] with
  | vc2 hpre hx =>
    -- the exit is written only when the fiber had none, so never over a published one
    have hgf : g ≠ f := fun hg => hx (by rw [hg]; exact Option.isSome_iff_exists.2 ⟨x, hpre⟩)
    exact (hpre.updateCode.updateBook_of_ne hgf).setData (Data.tame_groupTake _)
  | vc3 hpost => exact hpost.setData (Data.tame_takeObservers g)

theorem perform_succ_exit (r : Request) (hrun : ∀ {β : Type} (q : Cmd β), KeepsExit (runCmd n q))
    (hdisp : ∀ k, KeepsExit (dispose n k)) (hcomp : ∀ k e, KeepsExit (completeFuture n k e))
    (hstart : ∀ f, KeepsExit (start n f)) (hint : ∀ f r, KeepsExit (interruptAs n f r))
    (hperf : ∀ r, KeepsExit (perform n r)) : KeepsExit (perform (n + 1) r) := by
  intro f x
  have hp := fun r => hperf r f x
  have hr := fun {β : Type} (q : Cmd β) => hrun q f x
  have hd := fun k => hdisp k f x
  have hc := fun k e => hcomp k e f x
  have hs := fun g => hstart g f x
  have hi := fun g r => hint g r f x
  cases r with
  | data g | keepFn g | keepBuilder g | keepEffect g => rw [perform]; mvcgen
  | watch g _ => rw [perform]; mvcgen [hp]
  | call k arg => rw [perform]; mvcgen [hr]
  | build k arg => rw [perform]; mvcgen [hr]
  | dispose k => rw [perform]; mvcgen [hd]
  | newFuture e => rw [perform]; mvcgen [newFuture]
  | complete k e => rw [perform]; mvcgen [hc]
  | newFiber e id opts =>
    rw [perform]
    mvcgen [newFiber] with
    | vc1 hpre _ => exact (hpre.setData Data.tame_newGroup).pushFiber rfl
  | start k => rw [perform]; mvcgen [hs]
  | interrupt k y => rw [perform]; mvcgen [hi]
  | observe k cb =>
    rw [perform]
    mvcgen with
    | vc1 hpre => exact hpre.setData (Data.tame_addObserver k cb)

/-- Every function of the machine, given fuel `n`, keeps every published exit. -/
structure ExitContracts (n : Nat) : Prop where
  runCmd : ∀ {β : Type} (q : Cmd β), KeepsExit (runCmd n q)
  perform : ∀ r, KeepsExit (perform n r)
  dispose : ∀ k, KeepsExit (dispose n k)
  release : ∀ r, KeepsExit (release n r)
  disposeAll : ∀ ks, KeepsExit (disposeAll n ks)
  groupAdd : ∀ g m, KeepsExit (groupAdd n g m)
  callAll : ∀ ks v, KeepsExit (callAll n ks v)
  completeFuture : ∀ k e, KeepsExit (completeFuture n k e)
  notify : ∀ ws e, KeepsExit (notify n ws e)
  resume : ∀ f e, KeepsExit (resume n f e)
  interruptAs : ∀ f x, KeepsExit (interruptAs n f x)
  start : ∀ f, KeepsExit (start n f)
  runLoop : ∀ f, KeepsExit (runLoop n f)
  turns : ∀ f, KeepsExit (turns n f)
  step : ∀ f e, KeepsExit (step n f e)
  suspendOn : ∀ f k, KeepsExit (suspendOn n f k)
  continueWith : ∀ f v, KeepsExit (continueWith n f v)
  continueWithCause : ∀ f c, KeepsExit (continueWithCause n f c)
  done : ∀ f x, KeepsExit (done n f x)
  complete : ∀ f x, KeepsExit (complete n f x)

theorem ExitContracts.zero : ExitContracts 0 where
  runCmd _ := by intro f x; rw [Machine.runCmd]; mvcgen
  perform _ := by intro f x; rw [Machine.perform]; mvcgen
  dispose _ := by intro f x; rw [Machine.dispose]; mvcgen
  release _ := by intro f x; rw [Machine.release]; mvcgen
  disposeAll _ := by intro f x; rw [Machine.disposeAll]; mvcgen
  groupAdd _ _ := by intro f x; rw [Machine.groupAdd]; mvcgen
  callAll _ _ := by intro f x; rw [Machine.callAll]; mvcgen
  completeFuture _ _ := by intro f x; rw [Machine.completeFuture]; mvcgen
  notify _ _ := by intro f x; rw [Machine.notify]; mvcgen
  resume _ _ := by intro f x; rw [Machine.resume]; mvcgen
  interruptAs _ _ := by intro f x; rw [Machine.interruptAs]; mvcgen
  start _ := by intro f x; rw [Machine.start]; mvcgen
  runLoop _ := by intro f x; rw [Machine.runLoop]; mvcgen
  turns _ := by intro f x; rw [Machine.turns]; mvcgen
  step _ _ := by intro f x; rw [Machine.step]; mvcgen
  suspendOn _ _ := by intro f x; rw [Machine.suspendOn]; mvcgen
  continueWith _ _ := by intro f x; rw [Machine.continueWith]; mvcgen
  continueWithCause _ _ := by intro f x; rw [Machine.continueWithCause]; mvcgen
  done _ _ := by intro f x; rw [Machine.done]; mvcgen
  complete _ _ := by intro f x; rw [Machine.complete]; mvcgen

theorem ExitContracts.succ (hc : ExitContracts n) : ExitContracts (n + 1) where
  runCmd q := runCmd_succ_exit q hc.perform hc.runCmd
  perform r := perform_succ_exit r hc.runCmd hc.dispose hc.completeFuture hc.start hc.interruptAs hc.perform
  dispose k := dispose_succ_exit k hc.release
  release r := release_succ_exit r hc.perform hc.dispose hc.disposeAll
  disposeAll ks := disposeAll_succ_exit ks hc.dispose hc.disposeAll
  groupAdd g m := groupAdd_succ_exit g m hc.dispose
  callAll ks v := callAll_succ_exit ks v hc.perform hc.callAll
  completeFuture k e := completeFuture_succ_exit k e hc.notify
  notify ws e := notify_succ_exit ws e hc.perform hc.resume hc.notify
  resume f e := resume_succ_exit f e hc.dispose hc.runLoop
  interruptAs f x := interruptAs_succ_exit f x hc.dispose hc.runLoop
  start f := start_succ_exit f hc.runLoop
  runLoop f := runLoop_succ_exit f hc.turns
  turns f := turns_succ_exit f hc.step hc.done hc.turns
  step f e := step_succ_exit f e hc.runCmd hc.continueWith hc.continueWithCause hc.suspendOn
  suspendOn f k := suspendOn_succ_exit f k hc.groupAdd
  continueWith f v := continueWith_succ_exit f v hc.runCmd hc.continueWith hc.continueWithCause
  continueWithCause f c := continueWithCause_succ_exit f c hc.runCmd hc.continueWithCause
  done f x := done_succ_exit f x hc.complete
  complete f x := complete_succ_exit f x hc.disposeAll hc.callAll

theorem exitContracts : ∀ n, ExitContracts n
  | 0 => .zero
  | n + 1 => (exitContracts n).succ

variable {h : Heap} {f : Nat}

theorem exec_complete_of_published (hx : (h.book f).exit.isSome) (m : Nat) (y : Exit) :
    exec (complete (m + 1) f y) h = (.ok (), h) := by
  rw [complete]
  simp only [exec_bind, exec_book, hx, if_true]
  rfl

theorem exec_runLoop_of_published (hx : (h.book f).exit.isSome) (m : Nat) :
    exec (runLoop (m + 1) f) h = (.ok (), h) := by
  rw [runLoop]
  simp only [exec_bind, exec_book, hx, Bool.or_true, if_true]
  rfl

theorem exec_interruptAs_of_published (hx : (h.book f).exit.isSome) (m : Nat) (r : FiberId) :
    exec (interruptAs (m + 1) f r) h = (.ok (), h) := by
  rw [interruptAs]
  simp only [exec_bind, exec_book, hx, if_true]
  rfl

end Machine

end FiberEffects
