import FiberEffects.Proofs.LoopSteps
import FiberEffects.Script.Values

namespace FiberEffects

namespace Cause

/-- Mapping the errors with a program that only returns is mapping them. -/
theorem mapM_pure {ε ε' : Type} (g : ε → ε') (c : Cause ε) :
    c.mapM (fun x => (pure (g x) : Cmd ε')) = pure (c.map g) := by
  induction c with
  | empty => rfl
  | expected t x => rfl
  | unexpected t d => rfl
  | interrupted t fib => rfl
  | seq l r ihl ihr =>
    simp only [mapM, ihl, ihr]
    rfl
  | par l r ihl ihr =>
    simp only [mapM, ihl, ihr]
    rfl
  | traced c lbl ih =>
    simp only [mapM, ih]
    rfl

end Cause

namespace Machine

variable {n f : Nat} {h : Heap}

theorem pushes_flatMapCause (e : Effect) (g : Cause Json → Cmd Effect) :
    Pushes (Effect.flatMapCause e g) e (.flatMapCause g) := by
  intro n f h
  rw [step]
  rfl

theorem pushes_mapCause (e : Effect) (g : Cause Json → Cmd (Cause Json)) :
    Pushes (Effect.mapCause e g) e (.mapCause g) := by
  intro n f h
  rw [step]
  rfl

def Attempts (F : Frame) : Prop :=
  ∀ (n f : Nat) (h : Heap) rest, (h.codeOf f).frames = F :: rest →
    (∀ v, exec (continueWith (n + 2) f v) h = (.ok (.next (Effect.of (.exit (.ok v)))), h.popped f)) ∧
    (∀ c, exec (continueWithCause (n + 2) f c) h =
      (.ok (.next (Effect.of (.exit (.error c)))), (h.popped f).updateBook f (·.recoverInterrupt)))

/-- The frame of `catchError` on top of a fiber's frames: a value goes on to the frames below
untouched; a cause with no defect and no interruption runs the handler on its first expected
error; any other cause goes on failing as it was. -/
def Catches (handler : Json → Cmd Effect) (F : Frame) : Prop :=
  ∀ (n f : Nat) (h : Heap) rest, (h.codeOf f).frames = F :: rest →
    (∀ v, exec (continueWith (n + 1) f v) h = exec (continueWith n f v) (h.popped f)) ∧
    (∀ c x, c.defects = [] → c.isInterrupted = false → c.failures.head? = some x →
      exec (continueWithCause (n + 1) f c) h =
        exec (Outcome.next <$> runCmd n (handler x)) ((h.popped f).updateBook f (·.recoverInterrupt))) ∧
    (∀ c, (c.defects ≠ [] ∨ c.isInterrupted = true ∨ c.failures = []) →
      exec (continueWithCause (n + 2) f c) h =
        (.ok (.next (Effect.failCause c)), (h.popped f).updateBook f (·.recoverInterrupt)))

def MapsErrors (g : Json → Json) (F : Frame) : Prop :=
  ∀ (n f : Nat) (h : Heap) rest, (h.codeOf f).frames = F :: rest →
    (∀ v, exec (continueWith (n + 1) f v) h = exec (continueWith n f v) (h.popped f)) ∧
    (∀ c, exec (continueWithCause (n + 2) f c) h = exec (continueWithCause (n + 1) f (c.map g)) (h.popped f))

theorem attempt_frame (e : Effect) : ∃ F, Pushes (Effect.attempt e) e F ∧ Attempts F := by
  refine ⟨_, pushes_fold _ _ _, fun n f h rest hfr => ⟨fun v => ?_, fun c => ?_⟩⟩
  · rw [exec_continueWith_fold hfr, exec_map, exec_runCmd_pure]
  · rw [exec_continueWithCause_fold hfr, exec_map, exec_runCmd_pure]

theorem catchError_frame (e : Effect) (handler : Json → Cmd Effect) :
    ∃ F, Pushes (Effect.catchError e handler) e F ∧ Catches handler F := by
  refine ⟨_, pushes_flatMapCause _ _, fun n f h rest hfr => ⟨fun v => ?_, fun c x hd hi hx => ?_, fun c hc => ?_⟩⟩
  · exact exec_continueWith_flatMapCause hfr v
  · have hrec : Effect.recoverable c = true := by simp [Effect.recoverable, hd, hi]
    rw [exec_continueWithCause_flatMapCause hfr]
    simp only [hx, hrec, if_true]
  · -- the handler gives the cause back unless it is made of expected errors only
    have hback : c.failures.head? = none ∨ Effect.recoverable c = false := by
      rcases hc with hd | hi | hf
      · exact .inr (by simp [Effect.recoverable, List.isEmpty_iff, hd])
      · exact .inr (by simp [Effect.recoverable, hi])
      · exact .inl (by simp [hf])
    rw [exec_continueWithCause_flatMapCause hfr]
    split
    next x hx =>
      have hrec : Effect.recoverable c = false := hback.resolve_left (by simp [hx])
      rw [if_neg (by simp [hrec]), exec_map, exec_runCmd_pure]
    next => rw [exec_map, exec_runCmd_pure]

theorem mapError_frame (e : Effect) (g : Json → Json) :
    ∃ F, Pushes (Effect.mapError e fun x => pure (g x)) e F ∧ MapsErrors g F := by
  refine ⟨_, pushes_mapCause _ _, fun n f h rest hfr => ⟨fun v => ?_, fun c => ?_⟩⟩
  · exact exec_continueWith_mapCause hfr v
  · rw [exec_continueWithCause_mapCause hfr, Cause.mapM_pure, exec_bind, exec_runCmd_pure]

/-- The recovery combinators push one frame each and hand on what their effect ends with. -/
theorem recovery_frames_keep_exits (e : Effect) (handler : Json → Cmd Effect) (g : Json → Json) :
    (∃ F, Pushes (Effect.attempt e) e F ∧ Attempts F) ∧
    (∃ F, Pushes (Effect.catchError e handler) e F ∧ Catches handler F) ∧
    (∃ F, Pushes (Effect.mapError e fun x => pure (g x)) e F ∧ MapsErrors g F) ∧
    ∀ (n f : Nat) (h : Heap) (x : Exit), (h.codeOf f).instr = some (Effect.of (.exit x)) →
      (h.book f).interruptsNow = true →
      exec (turns (n + 1) f) h = exec (turns (n + 1) f)
        ((h.updateCode f fun c => { c with instr := some (Effect.failCause (h.book f).interruptCause) }).updateBook f
          fun b => { b with interrupting := true }) :=
  ⟨attempt_frame e, catchError_frame e handler, mapError_frame e g,
    fun _ _ _ _ hinstr hnow => exec_turns_of_interrupt hinstr hnow⟩

end Machine

namespace Heap

def oneFiber (e : Effect) (cause : Cause Json) : Heap :=
  let book : FiberBook := { (default : FiberBook) with flags := ⟨Flags.default, []⟩, interruptCause := cause }
  { code := #[⟨some e, []⟩], data := { fibers := #[book], stores := #[{}] } }

end Heap

namespace Machine

theorem attempted_success_interrupted :
    exec (turns 1 0) (Heap.oneFiber (Effect.of (.exit (.ok .unit))) (.interrupted Time.zero .none)) =
      exec (turns 1 0) (((Heap.oneFiber (Effect.of (.exit (.ok .unit))) (.interrupted Time.zero .none)).updateCode 0
        fun c => { c with instr := some (Effect.failCause (.interrupted Time.zero .none)) }).updateBook 0
          fun b => { b with interrupting := true }) :=
  (recovery_frames_keep_exits Effect.unit (fun _ => pure Effect.unit) id).2.2.2 0 0 _ (.ok .unit) rfl rfl

/-- An effect that asks its own fiber to stop succeeds, yet `attempt` of it ends interrupted. -/
theorem attempt_of_self_interruption_fails :
    (((exec (runLoop 30 0) (Heap.oneFiber (Effect.attempt
      (Effect.sync (do Cmd.interrupt 0 .none; pure .unit))) .empty)).2.book 0).exit.map Script.exitJson ==
        some (Script.exitJson (.error (.interrupted Time.zero .none)))) = true := by
  decide +kernel

end Machine

end FiberEffects
