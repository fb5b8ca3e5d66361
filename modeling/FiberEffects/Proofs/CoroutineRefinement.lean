import FiberEffects.Effect.Coroutine
import FiberEffects.Proofs.LoopSteps

namespace FiberEffects

namespace Co

def sequence : Co Exit → Cmd Effect
  | .done exit => pure (Effect.fromExit exit)
  | .panic m => Cmd.panic m
  | .call r next => Prog.call r fun w => (next w).sequence
  | .awaitBound e resume =>
    pure (Effect.fold e (fun c => (resume (.error c)).sequence) fun v => (resume (.ok v)).sequence)
  | .awaitForeign => Cmd.panic strayDefect
  | .awaitBoth _ _ => Cmd.panic twoBoundDefect

end Co

namespace CoChannel

variable {ch : CoChannel} {e e₁ e₂ : Effect}

def Quiet (ch : CoChannel) : Prop := ch.request = none ∧ ch.defect = none

theorem quiet_empty : ({} : CoChannel).Quiet := ⟨rfl, rfl⟩

theorem Quiet.respond (h : ch.Quiet) (r : Option Exit) : ({ ch with response := r } : CoChannel).Quiet :=
  h

theorem defect_post_post : ((ch.post e₁).post e₂).defect = some twoBoundDefect := by
  simp [post]

theorem settle_of_quiet (h : ch.Quiet) (repoll : CoChannel → Cmd Effect) :
    ch.settle repoll = Cmd.panic strayDefect := by
  simp [settle, h.1, h.2]

theorem settle_post (h : ch.Quiet) (repoll : CoChannel → Cmd Effect) :
    (ch.post e).settle repoll = pure (Effect.fold e
      (fun c => repoll { ch with response := some (.error c) })
      (fun v => repoll { ch with response := some (.ok v) })) := by
  obtain ⟨request, response, defect⟩ := ch
  obtain ⟨hr, hd⟩ := h
  simp only at hr hd
  subst hr hd
  simp [settle, post]

end CoChannel

namespace Co

/-- From a quiet channel the driver gives the chain of folds. -/
theorem step_of_quiet (body : Co Exit) {ch : CoChannel} (h : ch.Quiet) :
    body.step ch = body.sequence := by
  induction body generalizing ch with
  | done exit => rfl
  | panic m => rfl
  | call r next ih =>
    simp only [step, sequence]
    congr
    funext w
    exact ih w h
  | awaitBound e resume ih =>
    rw [step, CoChannel.settle_post h, sequence]
    have hnext : ∀ r, (resume r).step { ch with response := none } = (resume r).sequence :=
      fun r => ih r (h.respond none)
    simp only [hnext]
  | awaitForeign => simp [step, sequence, CoChannel.settle_of_quiet h]
  | awaitBoth e₁ e₂ => simp [step, sequence, CoChannel.settle, CoChannel.defect_post_post]

end Co

theorem Effect.coroutine_eq_suspend (body : Co Exit) :
    Effect.coroutine body = Effect.suspend body.sequence := by
  rw [Effect.coroutine, body.step_of_quiet CoChannel.quiet_empty]

namespace Machine

variable {f n : Nat} {h h' : Heap}

/-- Reaching a coroutine runs the chain of folds of its body as a builder. -/
theorem exec_step_coroutine (body : Co Exit) (h : Heap) :
    exec (step (n + 1) f (Effect.coroutine body)) h = match exec (runCmd n body.sequence) h with
      | (.ok e, h') => (.ok (.next e), h')
      | (.error x, h') => (.error x, h') := by
  rw [Effect.coroutine_eq_suspend, step]
  show exec (Outcome.next <$> runCmd n body.sequence) h = _
  rw [exec_map]
  rcases exec (runCmd n body.sequence) h with ⟨_ | _, _⟩ <;> rfl

end Machine

open Machine in
/-- A coroutine is the suspended chain of folds of its body, so it refines sequential composition. -/
theorem coroutine_refines_sequence (body : Co Exit) :
    Effect.coroutine body = Effect.suspend body.sequence ∧
    ∀ (n f : Nat) (h h' : Heap) (m : String), (h.codeOf f).instr = some (Effect.coroutine body) →
      (h.book f).interruptsNow = false →
      exec (runCmd n body.sequence) (h.updateCode f fun c => { c with instr := none }) =
        (.error (.panic m), h') →
      exec (turns (n + 2) f) h = exec (turns (n + 1) f) (h'.updateCode f fun c =>
        { c with instr := some (Effect.failCause (.unexpected (h'.data.fiberUnixTime f) m)) }) := by
  refine ⟨Effect.coroutine_eq_suspend body, ?_⟩
  intro n f h h' m hinstr hnow hpanic
  apply exec_turns_of_panic hinstr hnow
  rw [exec_step_coroutine, hpanic]

open Machine in
theorem coroutine_stray_wait_stamped :
    let h : Heap := { code := #[{ instr := some (Effect.coroutine .awaitForeign) }] }
    let h' := h.updateCode 0 fun c => { c with instr := none }
    (h.codeOf 0).instr = some (Effect.coroutine .awaitForeign) ∧ (h.book 0).interruptsNow = false ∧
    exec (runCmd 1 (Co.awaitForeign : Co Exit).sequence) h' = (.error (.panic strayDefect), h') ∧
    exec (turns 3 0) h = exec (turns 2 0) (h'.updateCode 0 fun c =>
      { c with instr := some (Effect.failCause (.unexpected (h'.data.fiberUnixTime 0) strayDefect)) }) := by
  intro h h'
  have hpanic : exec (runCmd 1 (Co.awaitForeign : Co Exit).sequence) h' =
      (.error (.panic strayDefect), h') := by
    simp only [Co.sequence, Cmd.panic, runCmd]
    rfl
  exact ⟨rfl, rfl, hpanic, (coroutine_refines_sequence .awaitForeign).2 1 0 h h' _ rfl rfl hpanic⟩

end FiberEffects
