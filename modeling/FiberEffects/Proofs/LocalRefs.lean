import FiberEffects.Proofs.HandlerFrames
import FiberEffects.Proofs.StorePolicies

namespace FiberEffects

namespace StoreCell

def restored (c : StoreCell) (ref : FiberRef) : Option Val → StoreCell
  | some p => c.set ref p
  | none => (c.delete ref.id).2

theorem get?_restored (c : StoreCell) (ref : FiberRef) (previous : Option Val) (r : RefId) :
    (c.restored ref previous).get? r = if r.num = ref.id.num then previous else c.get? r := by
  cases previous with
  | some p => exact get?_set c ref p r
  | none => exact get?_delete c ref.id r

end StoreCell

namespace Heap

def putBack (h : Heap) (s : Nat) (ref : FiberRef) (previous : Option Val) : Heap :=
  h.setData (h.data.setStore s ((h.data.store s).restored ref previous))

end Heap

namespace Effect

def localCont (ref : FiberRef) (v : Val) (e : Effect) : Val → Cmd Effect :=
  match (refLocally ref v e).instr with
  | .flatMap _ k => k
  | _ => fun _ => pure unit

end Effect

namespace Machine

variable {n f : Nat} {h : Heap}

theorem exec_runCmd_update_bind {β : Type} (g : Data → Data) (k : Unit → Cmd β) (hg : ∀ d, d.guard (g d) = g d) :
    exec (runCmd (n + 2) (Cmd.update g >>= k)) h = exec (runCmd (n + 1) (k ())) (h.setData (g h.data)) := by
  rw [Cmd.update, modify_bind, exec_runCmd_data, hg]

/-- Putting a slot back is one write of its store. -/
theorem exec_runCmd_restore {β : Type} (s : Nat) (ref : FiberRef) (previous : Option Val) (k : Unit → Cmd β) :
    exec (runCmd (n + 2) ((match previous with
      | some p => Cmd.storeSet s ref p
      | none => discard (Cmd.storeDelete s ref)) >>= k)) h =
      exec (runCmd (n + 1) (k ())) (h.putBack s ref previous) := by
  cases previous with
  | some p => exact exec_runCmd_update_bind _ k fun _ => Data.guard_setStore
  | none =>
    dsimp only
    rw [discard_bind, Cmd.storeDelete, modify_bind, exec_runCmd_data]
    simp only [Data.guard_setStore]
    rfl

/-- A frame that, whatever reaches it, puts the slot of `ref` in store `s` back to `previous` and
goes on with what reached it; a cause spends the interruption being unwound, as every handler does. -/
structure Restores (F : Frame) (s : Nat) (ref : FiberRef) (previous : Option Val) : Prop where
  value : ∀ (n f : Nat) (h : Heap) (i : Option Effect) (rest : List Frame) (v : Val), f < h.code.size →
    exec (continueWith (n + 3) f v) (h.setCode f ⟨i, F :: rest⟩) =
      (.ok (.next (Effect.of v)), (h.putBack s ref previous).setCode f ⟨i, rest⟩)
  cause : ∀ (n f : Nat) (h : Heap) (i : Option Effect) (rest : List Frame) (c : Cause Json), f < h.code.size →
    exec (continueWithCause (n + 3) f c) (h.setCode f ⟨i, F :: rest⟩) =
      (.ok (.next (Effect.failCause c)),
        ((h.updateBook f (·.recoverInterrupt)).putBack s ref previous).setCode f ⟨i, rest⟩)

/-- A fold whose two branches run the same write-back `R` and go on with what reached them. -/
theorem restores_fold {R : Cmd Unit} {s : Nat} {ref : FiberRef} {previous : Option Val}
    (hR : ∀ (n : Nat) (h : Heap) (k : Unit → Cmd Effect),
      exec (runCmd (n + 2) (R >>= k)) h = exec (runCmd (n + 1) (k ())) (h.putBack s ref previous)) :
    Restores (.fold (fun c => do R; pure (Effect.failCause c)) (fun r => do R; pure (Effect.of r))) s ref previous where
  value n f h i rest v hf := by
    rw [exec_continueWith_fold (congrArg FiberCode.frames (Heap.codeOf_setCode ⟨i, _⟩ hf)), Heap.popped_setCode, exec_map, hR,
      exec_runCmd_pure]
    rfl
  cause n f h i rest c hf := by
    rw [exec_continueWithCause_fold (congrArg FiberCode.frames (Heap.codeOf_setCode ⟨i, _⟩ hf)), Heap.popped_setCode, exec_map,
      hR, exec_runCmd_pure]
    rfl

theorem pushes_refLocally (ref : FiberRef) (v : Val) (e : Effect) :
    Pushes (Effect.refLocally ref v e) Effect.getStore (.flatMap (Effect.localCont ref v e)) :=
  pushes_flatMap _ _

theorem exec_step_localCont (ref : FiberRef) (v : Val) (e : Effect) (fs : List Frame) (hf : f < h.code.size) :
    ∃ onCause onValue,
      exec (step (n + 5) f Effect.getStore) (h.setCode f ⟨none, .flatMap (Effect.localCont ref v e) :: fs⟩) =
        (.ok (.next (Effect.fold e onCause onValue)),
          (h.setData (h.data.setStore (h.book f).stores.current
            ((h.data.store (h.book f).stores.current).set ref v))).setCode f ⟨none, fs⟩) ∧
      Restores (.fold onCause onValue) (h.book f).stores.current ref
        ((h.data.store (h.book f).stores.current).get? ref.id) := by
  refine ⟨?onCause, ?onValue, ?run, ?restores⟩
  case run =>
    rw [step]
    dsimp only [Effect.getStore, Effect.node, Effect.instr]
    rw [exec_bind, exec_book]
    dsimp only
    rw [exec_continueWith_flatMap hf, exec_map]
    dsimp only [Effect.localCont, Effect.refLocally, Effect.flatMap, Effect.node, Effect.instr, Val.toNat,
      Cmd.storeGet?, Heap.book_setCode]
    rw [exec_runCmd_read_bind _ Answer.ofVal_toVal_optionVal, Cmd.storeSet, Cmd.updateStore,
      exec_runCmd_update_bind _ _ fun _ => Data.guard_setStore, exec_runCmd_pure]
    rfl
  case restores =>
    -- both branches write back the value read before the write, or its absence
    refine restores_fold fun n h' k => ?_
    rw [Heap.data_setCode]
    cases (h.data.store (h.book f).stores.current).get? ref.id with
    | some p => exact exec_runCmd_restore _ ref (some p) k
    | none => exact exec_runCmd_restore _ ref none k

theorem exec_turns_locally {ref : FiberRef} {v : Val} {e : Effect} {fs : List Frame}
    (hc : h.codeOf f = ⟨some (Effect.refLocally ref v e), fs⟩) (hnow : (h.book f).interruptsNow = false) :
    ∃ F, Restores F (h.book f).stores.current ref ((h.data.store (h.book f).stores.current).get? ref.id) ∧
      exec (turns (n + 7) f) h = exec (turns (n + 4) f)
        ((h.setData (h.data.setStore (h.book f).stores.current
          ((h.data.store (h.book f).stores.current).set ref v))).setCode f ⟨some e, F :: fs⟩) := by
  have hf : f < h.code.size := lt_code_of_instr (e := Effect.refLocally ref v e) (by rw [hc])
  obtain ⟨onCause, onValue, hstep, hF⟩ := exec_step_localCont (n := n) ref v e fs hf
  refine ⟨.fold onCause onValue, hF, ?_⟩
  rw [exec_turns_push (n := n + 5) hc hnow (pushes_refLocally ref v e)]
  rw [exec_turns_code (Heap.codeOf_setCode _ hf) hnow (by simpa only [Heap.setCode_setCode] using hstep)]
  have hcalm : ∀ c, (((h.setData (h.data.setStore (h.book f).stores.current
      ((h.data.store (h.book f).stores.current).set ref v))).setCode f c).book f).interruptsNow = false :=
    fun _ => hnow
  rw [exec_turns_push (n := n + 3) (Heap.codeOf_setCode _ (by simpa using hf)) (hcalm _) (pushes_fold e onCause onValue),
    Heap.setCode_setCode]

end Machine

open Machine in
/-- A local setting runs its effect with the new value in its slot, over a frame that puts the slot back. -/
theorem locally_restores_slot (ref : FiberRef) (v : Val) (e : Effect) :
    (∀ (n f : Nat) (h : Heap) (fs : List Frame),
      h.codeOf f = ⟨some (Effect.refLocally ref v e), fs⟩ → (h.book f).interruptsNow = false →
      ∃ F, Restores F (h.book f).stores.current ref ((h.data.store (h.book f).stores.current).get? ref.id) ∧
        exec (turns (n + 7) f) h = exec (turns (n + 4) f)
          ((h.setData (h.data.setStore (h.book f).stores.current
            ((h.data.store (h.book f).stores.current).set ref v))).setCode f ⟨some e, F :: fs⟩)) ∧
    (∀ (c : StoreCell) (r : RefId), (c.set ref v).get? r = if r.num = ref.id.num then some v else c.get? r) ∧
    (∀ (c : StoreCell) (previous : Option Val) (r : RefId),
      (c.restored ref previous).get? r = if r.num = ref.id.num then previous else c.get? r) ∧
    (∀ (n f : Nat) (h : Heap) (e' : Effect), (h.codeOf f).instr = some e' → (h.book f).interruptsNow = true →
      exec (turns (n + 1) f) h = exec (turns (n + 1) f)
        ((h.updateCode f fun c => { c with instr := some (Effect.failCause (h.book f).interruptCause) }).updateBook f
          fun b => { b with interrupting := true })) :=
  ⟨fun _ _ _ _ hc hnow => exec_turns_locally hc hnow,
    fun c r => StoreCell.get?_set c ref v r,
    fun c previous r => StoreCell.get?_restored c ref previous r,
    fun _ _ _ _ hinstr hnow => exec_turns_of_interrupt hinstr hnow⟩

open Machine in
theorem locally_starts_or_is_interrupted (ref : FiberRef) (e : Effect) :
    (∃ F, Restores F 0 ref none ∧
      exec (turns 7 0) (Heap.oneFiber (Effect.refLocally ref (.nat 1) e) .empty) = exec (turns 4 0)
        (((Heap.oneFiber (Effect.refLocally ref (.nat 1) e) .empty).setData
          ((Heap.oneFiber (Effect.refLocally ref (.nat 1) e) .empty).data.setStore 0
            (({} : StoreCell).set ref (.nat 1)))).setCode 0 ⟨some e, [F]⟩)) ∧
    exec (turns 1 0) (Heap.oneFiber (Effect.refLocally ref (.nat 1) e) (.interrupted Time.zero .none)) =
      exec (turns 1 0)
        (((Heap.oneFiber (Effect.refLocally ref (.nat 1) e) (.interrupted Time.zero .none)).updateCode 0
          fun c => { c with instr := some (Effect.failCause (.interrupted Time.zero .none)) }).updateBook 0
            fun b => { b with interrupting := true }) := by
  obtain ⟨F, hF, hrun⟩ := (locally_restores_slot ref (.nat 1) e).1 0 0
    (Heap.oneFiber (Effect.refLocally ref (.nat 1) e) .empty) [] rfl rfl
  exact ⟨⟨F, hF, hrun⟩, (locally_restores_slot ref (.nat 1) e).2.2.2 0 0 _ _ rfl rfl⟩

open Machine in
/-- A local setting whose effect asks its own fiber to stop ends interrupted, not with its unit. -/
theorem locally_of_self_interruption_fails :
    (((exec (runLoop 30 0) (Heap.oneFiber (Effect.refLocally default (.nat 1)
      (Effect.sync (do Cmd.interrupt 0 .none; pure .unit))) .empty)).2.book 0).exit.map Script.exitJson ==
        some (Script.exitJson (.error (.interrupted Time.zero .none)))) = true := by
  decide +kernel

end FiberEffects
