import FiberEffects.Proofs.Requests

namespace FiberEffects

namespace Heap

variable {h : Heap} {f : Nat}

def popped (h : Heap) (f : Nat) : Heap := h.updateCode f fun c => { c with frames := c.frames.tail }

def setCode (h : Heap) (f : Nat) (c : FiberCode) : Heap := h.updateCode f fun _ => c

/-- Changing a fiber's code depends only on what the change gives for that code. -/
theorem updateCode_congr {F G : FiberCode → FiberCode} (hFG : F (h.codeOf f) = G (h.codeOf f)) :
    h.updateCode f F = h.updateCode f G := by
  unfold updateCode
  congr 1
  apply Array.ext_getElem?
  intro i
  rw [Array.getElem?_modify, Array.getElem?_modify]
  split
  · next hfi =>
    subst hfi
    cases hc : h.code[f]? with
    | none => rfl
    | some c =>
      have hcode : h.codeOf f = c := by simp [codeOf, hc]
      rw [Option.map_some, Option.map_some, ← hcode, hFG]
  · rfl

theorem updateCode_take {i : Option Effect} {fs : List Frame} (hc : h.codeOf f = ⟨i, fs⟩) :
    (h.updateCode f fun c => { c with instr := none }) = h.setCode f ⟨none, fs⟩ :=
  updateCode_congr (by rw [hc])

@[simp] theorem book_setCode (c : FiberCode) (g : Nat) : (h.setCode f c).book g = h.book g := rfl

@[simp] theorem data_setCode (c : FiberCode) : (h.setCode f c).data = h.data := rfl

@[simp] theorem setCode_setCode (c c' : FiberCode) : (h.setCode f c).setCode f c' = h.setCode f c' := by
  simp only [setCode, updateCode_updateCode]
  rfl

theorem codeOf_setCode (c : FiberCode) (hf : f < h.code.size) : (h.setCode f c).codeOf f = c :=
  codeOf_updateCode_self _ hf

@[simp] theorem size_setCode (c : FiberCode) : (h.setCode f c).code.size = h.code.size :=
  size_updateCode _

@[simp] theorem updateCode_setCode (c : FiberCode) (F : FiberCode → FiberCode) :
    (h.setCode f c).updateCode f F = h.setCode f (F c) := by
  simp only [setCode, updateCode_updateCode]
  rfl

@[simp] theorem popped_setCode (i : Option Effect) (F : Frame) (rest : List Frame) :
    (h.setCode f ⟨i, F :: rest⟩).popped f = h.setCode f ⟨i, rest⟩ := by
  rw [popped, updateCode_setCode]
  rfl

theorem setData_setCode (c : FiberCode) (d : Data) : (h.setCode f c).setData d = (h.setData d).setCode f c :=
  rfl

end Heap

namespace Machine

variable {n f : Nat} {h h' : Heap} {e e' : Effect}

theorem exec_tryCatch {α : Type} (m : Machine α) (handler : Fault → Machine α) (h : Heap) :
    exec (tryCatch m handler) h = match exec m h with
      | (.ok a, h') => (.ok a, h')
      | (.error x, h') => exec (handler x) h' := by
  show (ExceptT.tryCatch m handler).run.run h = _
  simp only [exec, ExceptT.tryCatch, ExceptT.run, ExceptT.mk, bind, StateT.bind, StateT.run]
  rcases m h with ⟨_ | _, _⟩ <;> rfl

theorem exec_takeInstr : exec (takeInstr f) h =
    (.ok (h.codeOf f).instr, h.updateCode f fun c => { c with instr := none }) := by
  rw [takeInstr_eq]
  rfl

theorem exec_takeInterrupt_of_calm (hnow : (h.book f).interruptsNow = false) :
    exec (takeInterrupt f) h = (.ok none, h) := by
  have hnone : (h.book f).takeInterrupt = (none, h.book f) := by
    simp [FiberBook.takeInterrupt, hnow]
  have hsame : h.updateBook f (fun _ => h.book f) = h := Heap.updateBook_eq_self rfl
  simp only [takeInterrupt, exec_modifyGetData, Data.takeInterrupt]
  rw [show h.data.fiber f = h.book f from rfl, hnone]
  exact congrArg _ hsame

theorem exec_popFrame (f : Nat) (h : Heap) :
    exec (popFrame f) h = (.ok (h.codeOf f).frames.head?, h.popped f) := by
  rw [popFrame_eq]
  rfl

theorem exec_takeInterrupt (f : Nat) (h : Heap) :
    exec (takeInterrupt f) h = (.ok (h.book f).takeInterrupt.1, h.updateBook f fun b => b.takeInterrupt.2) := by
  have hconst := modifyFiber_const (f := f) h.data fun b => b.takeInterrupt.2
  simp only [takeInterrupt, exec_modifyGetData, Data.takeInterrupt, hconst]
  rfl

theorem updateBook_congr {F G : FiberBook → FiberBook} (hFG : F (h.book f) = G (h.book f)) :
    h.updateBook f F = h.updateBook f G := by
  unfold Heap.updateBook
  rw [← modifyFiber_const h.data F, ← modifyFiber_const h.data G]
  have hFG' : F (h.data.fiber f) = G (h.data.fiber f) := hFG
  rw [hFG']

theorem lt_code_of_instr (hinstr : (h.codeOf f).instr = some e) : f < h.code.size := by
  rcases Nat.lt_or_ge f h.code.size with hf | hf
  · exact hf
  · rw [Heap.codeOf_of_le hf] at hinstr
    cases hinstr

theorem lt_fibers_of_interruptsNow (hnow : (h.book f).interruptsNow = true) : f < h.data.fibers.size := by
  rcases Nat.lt_or_ge f h.data.fibers.size with hf | hf
  · exact hf
  · -- a fiber that does not exist has the default book, with nothing to act on
    have hdef : h.book f = default := by simp [Heap.book, Data.fiber, Array.getElem?_eq_none hf]
    have hcalm : (default : FiberBook).interruptsNow = false := rfl
    rw [hdef, hcalm] at hnow
    cases hnow

section Frames

variable {i : Option Effect} {rest : List Frame}

theorem exec_continueWith_fold {onCause : Cause Json → Cmd Effect} {onValue : Val → Cmd Effect}
    (hfr : (h.codeOf f).frames = .fold onCause onValue :: rest) (v : Val) :
    exec (continueWith (n + 1) f v) h = exec (Outcome.next <$> runCmd n (onValue v)) (h.popped f) := by
  rw [continueWith, exec_bind, exec_popFrame, hfr]
  rfl

theorem exec_continueWithCause_fold {onCause : Cause Json → Cmd Effect} {onValue : Val → Cmd Effect}
    (hfr : (h.codeOf f).frames = .fold onCause onValue :: rest) (c : Cause Json) :
    exec (continueWithCause (n + 1) f c) h =
      exec (Outcome.next <$> runCmd n (onCause c)) ((h.popped f).updateBook f (·.recoverInterrupt)) := by
  rw [continueWithCause, exec_bind, exec_popFrame, hfr]
  rfl

theorem exec_continueWithCause_flatMapCause {g : Cause Json → Cmd Effect}
    (hfr : (h.codeOf f).frames = .flatMapCause g :: rest) (c : Cause Json) :
    exec (continueWithCause (n + 1) f c) h =
      exec (Outcome.next <$> runCmd n (g c)) ((h.popped f).updateBook f (·.recoverInterrupt)) := by
  rw [continueWithCause, exec_bind, exec_popFrame, hfr]
  rfl

theorem exec_continueWith_flatMapCause {g : Cause Json → Cmd Effect}
    (hfr : (h.codeOf f).frames = .flatMapCause g :: rest) (v : Val) :
    exec (continueWith (n + 1) f v) h = exec (continueWith n f v) (h.popped f) := by
  rw [continueWith, exec_bind, exec_popFrame, hfr]
  rfl

theorem exec_continueWith_mapCause {g : Cause Json → Cmd (Cause Json)}
    (hfr : (h.codeOf f).frames = .mapCause g :: rest) (v : Val) :
    exec (continueWith (n + 1) f v) h = exec (continueWith n f v) (h.popped f) := by
  rw [continueWith, exec_bind, exec_popFrame, hfr]
  rfl

theorem exec_continueWithCause_mapCause {g : Cause Json → Cmd (Cause Json)}
    (hfr : (h.codeOf f).frames = .mapCause g :: rest) (c : Cause Json) :
    exec (continueWithCause (n + 1) f c) h =
      exec (runCmd n (g c) >>= continueWithCause n f) (h.popped f) := by
  rw [continueWithCause, exec_bind, exec_popFrame, hfr]
  rfl

theorem exec_continueWith_flatMap {g : Val → Cmd Effect} (hf : f < h.code.size) (v : Val) :
    exec (continueWith (n + 1) f v) (h.setCode f ⟨i, .flatMap g :: rest⟩) =
      exec (Outcome.next <$> runCmd n (g v)) (h.setCode f ⟨i, rest⟩) := by
  rw [continueWith, exec_bind, exec_popFrame, Heap.codeOf_setCode _ hf, Heap.popped_setCode]
  rfl

theorem exec_continueWith_map {g : Val → Cmd Val} (hf : f < h.code.size) (v : Val) :
    exec (continueWith (n + 1) f v) (h.setCode f ⟨i, .map g :: rest⟩) =
      exec (runCmd n (g v) >>= continueWith n f) (h.setCode f ⟨i, rest⟩) := by
  rw [continueWith, exec_bind, exec_popFrame, Heap.codeOf_setCode _ hf, Heap.popped_setCode]
  rfl

end Frames

section Turns

variable {fs : List Frame}

/-- With no interruption to act on, a turn runs its instruction. -/
theorem exec_turns_next (hinstr : (h.codeOf f).instr = some e) (hnow : (h.book f).interruptsNow = false)
    (hstep : exec (step n f e) (h.updateCode f fun c => { c with instr := none }) = (.ok (.next e'), h')) :
    exec (turns (n + 1) f) h = exec (turns n f) (h'.updateCode f fun c => { c with instr := some e' }) := by
  have hcalm : ((h.updateCode f fun c => { c with instr := none }).book f).interruptsNow = false := by
    simpa using hnow
  rw [turns]
  simp only [exec_bind, exec_takeInstr, hinstr, exec_takeInterrupt_of_calm hcalm, exec_tryCatch, hstep]
  rfl

theorem exec_turns_of_panic {e : Effect} {m : String} (hinstr : (h.codeOf f).instr = some e)
    (hnow : (h.book f).interruptsNow = false)
    (hpanic : exec (step n f e) (h.updateCode f fun c => { c with instr := none }) =
      (.error (.panic m), h')) :
    exec (turns (n + 1) f) h = exec (turns n f) (h'.updateCode f fun c =>
      { c with instr := some (Effect.failCause (.unexpected (h'.data.fiberUnixTime f) m)) }) := by
  have hcalm : ((h.updateCode f fun c => { c with instr := none }).book f).interruptsNow = false := by
    simpa using hnow
  rw [turns]
  simp only [exec_bind, exec_takeInstr, hinstr, exec_takeInterrupt_of_calm hcalm, exec_tryCatch,
    hpanic, defectCause, unixTime]
  rfl

theorem exec_turns_of_interrupt (hinstr : (h.codeOf f).instr = some e)
    (hnow : (h.book f).interruptsNow = true) :
    exec (turns (n + 1) f) h = exec (turns (n + 1) f)
      ((h.updateCode f fun c => { c with instr := some (Effect.failCause (h.book f).interruptCause) }).updateBook f
        fun b => { b with interrupting := true }) := by
  have hc := lt_code_of_instr hinstr
  have hb := lt_fibers_of_interruptsNow hnow
  -- both turns run the failure from the heap with the instruction taken and the fiber interrupting
  let start := (h.updateBook f fun b => { b with interrupting := true }).updateCode f
    fun c => { c with instr := none }
  have htake : exec (takeInterrupt f) (h.updateCode f fun c => { c with instr := none }) =
      (.ok (some (h.book f).interruptCause), start) := by
    have hclaim : (h.book f).takeInterrupt =
        (some (h.book f).interruptCause, { h.book f with interrupting := true }) := by
      simp [FiberBook.takeInterrupt, hnow]
    rw [exec_takeInterrupt, Heap.book_updateCode, hclaim, Heap.updateCode_updateBook,
      updateBook_congr (G := fun b => { b with interrupting := true }) (by rw [hclaim])]
  have hrest : exec (takeInstr f) ((h.updateCode f fun c =>
      { c with instr := some (Effect.failCause (h.book f).interruptCause) }).updateBook f
        fun b => { b with interrupting := true }) = (.ok (some (Effect.failCause (h.book f).interruptCause)), start) := by
    rw [exec_takeInstr, Heap.codeOf_updateBook, Heap.codeOf_updateCode_self _ hc, Heap.updateCode_updateBook,
      Heap.updateCode_updateCode]
    rfl
  have hcalm : (start.book f).interruptsNow = false := by
    simp [start, Heap.book_updateBook_self _ hb, FiberBook.interruptsNow]
  rw [turns]
  simp only [exec_bind, exec_takeInstr, hinstr, htake, hrest, exec_takeInterrupt_of_calm hcalm]

theorem exec_turns_fault (hc : h.codeOf f = ⟨some e, fs⟩) (hnow : (h.book f).interruptsNow = false)
    (hstep : (exec (step n f e) (h.setCode f ⟨none, fs⟩)).1 = .error .outOfFuel) :
    (exec (turns (n + 1) f) h).1 = .error .outOfFuel := by
  have hcalm : ((h.updateCode f fun c => { c with instr := none }).book f).interruptsNow = false := by
    simpa using hnow
  rw [← Heap.updateCode_take hc] at hstep
  rw [turns]
  simp only [exec_bind, exec_takeInstr, hc, exec_takeInterrupt_of_calm hcalm, exec_tryCatch]
  rcases hs : exec (step n f e) (h.updateCode f fun c => { c with instr := none }) with ⟨r, h''⟩
  rw [hs] at hstep
  subst hstep
  rfl

theorem exec_turns_code {H : Heap} {fs' : List Frame} (hc : h.codeOf f = ⟨some e, fs⟩)
    (hnow : (h.book f).interruptsNow = false)
    (hstep : exec (step n f e) (h.setCode f ⟨none, fs⟩) = (.ok (.next e'), H.setCode f ⟨none, fs'⟩)) :
    exec (turns (n + 1) f) h = exec (turns n f) (H.setCode f ⟨some e', fs'⟩) := by
  rw [← Heap.updateCode_take hc] at hstep
  rw [exec_turns_next (by rw [hc]) hnow hstep, Heap.updateCode_setCode]

def Pushes (e' e : Effect) (F : Frame) : Prop :=
  ∀ n f h, exec (step (n + 1) f e') h =
    (.ok (.next e), h.updateCode f fun c => { c with frames := F :: c.frames })

theorem exec_turns_push {F : Frame} (hc : h.codeOf f = ⟨some e, fs⟩) (hnow : (h.book f).interruptsNow = false)
    (hp : Pushes e e' F) : exec (turns (n + 2) f) h = exec (turns (n + 1) f) (h.setCode f ⟨some e', F :: fs⟩) := by
  exact exec_turns_code hc hnow (by rw [hp, Heap.updateCode_setCode])

theorem pushes_fold (e : Effect) (onCause : Cause Json → Cmd Effect) (onValue : Val → Cmd Effect) :
    Pushes (Effect.fold e onCause onValue) e (.fold onCause onValue) := by
  intro n f h
  rw [step]
  rfl

theorem pushes_flatMap (e : Effect) (g : Val → Cmd Effect) : Pushes (Effect.flatMap e g) e (.flatMap g) := by
  intro n f h
  rw [step]
  rfl

theorem pushes_map (e : Effect) (g : Val → Cmd Val) : Pushes (Effect.map e g) e (.map g) := by
  intro n f h
  rw [step]
  rfl

end Turns

end Machine

end FiberEffects
