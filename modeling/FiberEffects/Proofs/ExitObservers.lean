import FiberEffects.Proofs.PublishedExit
import FiberEffects.Proofs.Reachable
import FiberEffects.Proofs.Requests

namespace FiberEffects

namespace Data

variable {d : Data} {f : Nat}

theorem observers_addObserver (hf : f < d.fibers.size) (cb : Nat) :
    ((d.addObserver f cb).2.fiber f).observers = (d.fiber f).observers ++ [((d.fiber f).nextObserver, cb)] := by
  simp [addObserver, newDisposable, fiber, modifyFiber, modifyAt, Array.getElem_modify, hf]

theorem cell_addObserver (f cb : Nat) :
    (d.addObserver f cb).2.disposables[(d.addObserver f cb).1]? =
      some ⟨false, some (.unobserve f (d.fiber f).nextObserver)⟩ := by
  simp [addObserver, newDisposable, modifyFiber]

theorem observers_removeObserver (f key : Nat) :
    ((d.removeObserver f key).fiber f).observers = (d.fiber f).observers.filter (·.1 != key) := by
  simp only [removeObserver, modifyFiber, fiber, modifyAt, Array.getElem?_modify, if_true]
  cases d.fibers[f]? <;> rfl

theorem takeObservers_eq (f : Nat) :
    (d.takeObservers f).1 = (d.fiber f).observers.map (·.2) ∧ ((d.takeObservers f).2.fiber f).observers = [] := by
  refine ⟨rfl, ?_⟩
  simp only [takeObservers, modifyFiber, fiber, modifyAt, Array.getElem?_modify, if_true]
  cases d.fibers[f]? <;> rfl

end Data

namespace Machine

variable {h : Heap} {f : Nat}

theorem exec_resume_idle (hsus : (h.book f).suspension = none) (m : Nat) (e : Effect) :
    exec (resume (m + 1) f e) h = (.ok (), h) := by
  rw [resume]
  simp only [exec_bind, exec_book, hsus]
  rfl

theorem exec_observe_published {x : Exit} (hx : (h.book f).exit = some x) (m cb : Nat) :
    exec (runCmd (m + 4) (Cmd.observe f cb)) h =
      exec (perform (m + 2) (.call cb (.exit x)) >>= fun _ => runCmd (m + 2) (Cmd.newDisposable none)) h := by
  rw [Cmd.observe, exec_runCmd_fiberExit_bind]
  have hx' : (h.data.fiber f).exit = some x := hx
  rw [hx']
  dsimp only
  rw [discard_bind]
  show exec (runCmd (m + 3) (Prog.call (.call cb (.exit x)) fun _ => Cmd.newDisposable none)) h = _
  rw [runCmd]

theorem exec_observe_pending (hx : (h.book f).exit = none) (m cb : Nat) :
    exec (runCmd (m + 3) (Cmd.observe f cb)) h =
      (.ok (h.data.addObserver f cb).1, h.setData (h.data.addObserver f cb).2) := by
  rw [Cmd.observe, exec_runCmd_fiberExit_bind]
  have hx' : (h.data.fiber f).exit = none := hx
  rw [hx']
  dsimp only
  show exec (runCmd (m + 2) (Prog.call (.observe f cb) fun v => .done v.toNat)) h = _
  rw [exec_runCmd_observe, runCmd]
  rfl

theorem exec_complete_pending (hx : (h.book f).exit = none) (m : Nat) (x : Exit) :
    let H := (h.updateCode f fun _ => {}).updateBook f fun b => { b with suspension := none, exit := some x }
    exec (complete (m + 1) f x) h =
      exec (disposeAll m (H.data.groupTake (h.book f).group).1 >>= fun _ =>
        modifyGetData (·.takeObservers f) >>= fun obs => callAll m obs (.exit x))
        (H.setData (H.data.groupTake (h.book f).group).2) := by
  intro H
  -- the group is read back from the book just written, which keeps it
  have hgroup : (((h.updateCode f fun _ => {}).updateBook f fun b =>
      { b with suspension := none, exit := some x }).book f).group = (h.book f).group := by
    rw [Heap.book_updateBook_same]
    split <;> rfl
  rw [complete]
  simp only [exec_bind, exec_book, hx, Option.isSome_none, Bool.false_eq_true, if_false, exec_modifyCode,
    exec_modifyBook, exec_modifyGetData, hgroup]
  rfl

/-- A fiber's exit is published once, and each observer sees it once, in the order they registered. -/
theorem exit_published_once {α : Type} (n : Nat) (q : Cmd α)
    (hfuel : (exec (runCmd n q) h).1 ≠ .error .outOfFuel) :
    (∀ x, (h.book f).exit = some x →
      ((exec (runCmd n q) h).2.book f).exit = some x ∧
      (∀ m y, exec (complete (m + 1) f y) h = (.ok (), h)) ∧
      (∀ m, exec (runLoop (m + 1) f) h = (.ok (), h)) ∧
      (∀ m r, exec (interruptAs (m + 1) f r) h = (.ok (), h)) ∧
      (Reachable h → ∀ m e, exec (resume (m + 1) f e) h = (.ok (), h)) ∧
      ∀ m cb, exec (runCmd (m + 4) (Cmd.observe f cb)) h =
        exec (perform (m + 2) (.call cb (.exit x)) >>= fun _ => runCmd (m + 2) (Cmd.newDisposable none)) h) ∧
    ((h.book f).exit = none →
      (f < h.data.fibers.size → ∀ m cb,
        exec (runCmd (m + 3) (Cmd.observe f cb)) h =
          (.ok (h.data.addObserver f cb).1, h.setData (h.data.addObserver f cb).2) ∧
        ((h.data.addObserver f cb).2.fiber f).observers = (h.book f).observers ++ [((h.book f).nextObserver, cb)] ∧
        (h.data.addObserver f cb).2.disposables[(h.data.addObserver f cb).1]? =
          some ⟨false, some (.unobserve f (h.book f).nextObserver)⟩) ∧
      ∀ m x, let H := (h.updateCode f fun _ => {}).updateBook f fun b =>
          { b with suspension := none, exit := some x }
        exec (complete (m + 1) f x) h =
          exec (disposeAll m (H.data.groupTake (h.book f).group).1 >>= fun _ =>
            modifyGetData (·.takeObservers f) >>= fun obs => callAll m obs (.exit x))
            (H.setData (H.data.groupTake (h.book f).group).2)) ∧
    ∀ (d : Data) (key : Nat), ((d.removeObserver f key).fiber f).observers = (d.fiber f).observers.filter (·.1 != key) ∧
      (d.takeObservers f).1 = (d.fiber f).observers.map (·.2) ∧ ((d.takeObservers f).2.fiber f).observers = [] := by
  refine ⟨fun x hpub => ?_, fun hx => ⟨fun hf m cb => ⟨exec_observe_pending hx m cb,
    Data.observers_addObserver hf cb, Data.cell_addObserver f cb⟩, fun m x => exec_complete_pending hx m x⟩,
    fun d key => ⟨Data.observers_removeObserver f key, Data.takeObservers_eq f⟩⟩
  have hx : (h.book f).exit.isSome := by rw [hpub]; rfl
  -- the run keeps the exit, on a panic as on a value
  have hrun := exec_of_triple ((exitContracts n).runCmd q f x) h hpub
  have hkept : ((exec (runCmd n q) h).2.book f).exit = some x := by
    rcases hexec : exec (runCmd n q) h with ⟨e | v, h'⟩ <;> rw [hexec] at hrun hfuel
    · cases e with
      | panic m => exact hrun
      | outOfFuel => exact absurd rfl hfuel
    · exact hrun
  exact ⟨hkept, exec_complete_of_published hx, exec_runLoop_of_published hx,
    exec_interruptAs_of_published hx,
    fun hr m e => exec_resume_idle ((hr.steady.inv.fibers f).done hx).1 m e,
    exec_observe_published hpub⟩

def finishOne : Cmd Val :=
  Prog.call (Request.newFiber (Effect.of .unit) .none ⟨{}, 0, 0, Flags.default⟩) fun _ =>
  Prog.call (Request.start 0) fun _ => .done .unit

def finishedHeap : Heap := (exec (runCmd 12 finishOne) default).2

def interruptFirst : Cmd Val := Prog.call (Request.interrupt 0 .none) fun _ => .done .unit

theorem finishedHeap_exit_kept :
    (exec (runCmd 12 interruptFirst) finishedHeap).1 ≠ .error .outOfFuel ∧
      ∃ x, (finishedHeap.book 0).exit = some x ∧
        ((exec (runCmd 12 interruptFirst) finishedHeap).2.book 0).exit = some x ∧
        ∀ m cb, exec (runCmd (m + 4) (Cmd.observe 0 cb)) finishedHeap =
          exec (perform (m + 2) (.call cb (.exit x)) >>= fun _ =>
            runCmd (m + 2) (Cmd.newDisposable none)) finishedHeap := by
  have hx : (finishedHeap.book 0).exit.isSome = true := by decide +kernel
  have hok : (exec (runCmd 12 interruptFirst) finishedHeap).1.toBool = true := by decide +kernel
  have hfuel : (exec (runCmd 12 interruptFirst) finishedHeap).1 ≠ .error .outOfFuel :=
    ne_outOfFuel_of_toBool hok
  obtain ⟨x, hpub⟩ := Option.isSome_iff_exists.1 hx
  obtain ⟨hkept, -, -, -, -, hobs⟩ := (exit_published_once 12 interruptFirst hfuel).1 x hpub
  exact ⟨hfuel, x, hpub, hkept, hobs⟩

end Machine

end FiberEffects
