import FiberEffects.Proofs.LoopSimulation
import FiberEffects.Proofs.PublishedExit
import FiberEffects.Proofs.Resumption

namespace FiberEffects

def Heap.rest (h : Heap) (f : Nat) : Heap := h.updateBook f fun b => { b with running := false }

def Heap.world (h : Heap) (φ : Nat → Option Effect) : World :=
  ⟨h.data.unixTimeIn, φ, fun k => h.effects[k]?, fun k => h.builders[k]?⟩

def Options.scopes (opts : Options) : Scopes := ⟨.new opts.context, .new opts.store, .new opts.flags⟩

@[simp] theorem Options.env_scopes (opts : Options) : opts.scopes.env = opts.env := rfl

namespace Heap

variable {h : Heap} {f : Nat}

theorem book_rest (hf : f < h.data.fibers.size) : (h.rest f).book f = { h.book f with running := false } :=
  book_updateBook_self _ hf

theorem unixTimeIn_updateBook (g : FiberBook → FiberBook) :
    (h.updateBook f g).data.unixTimeIn = h.data.unixTimeIn := rfl

theorem children_updateBook (g : FiberBook → FiberBook) :
    (h.updateBook f g).data.children = h.data.children := rfl

theorem groups_updateBook (g : FiberBook → FiberBook) :
    (h.updateBook f g).data.groups = h.data.groups := rfl

theorem Published.rest {x : Exit} (hp : h.Published f x) : (h.rest f).Published f x := by
  rcases Nat.lt_or_ge f h.data.fibers.size with hf | hf
  · show ((h.rest f).book f).exit = some x
    rw [book_rest hf]
    exact hp
  · unfold Heap.rest
    rw [updateBook_of_le _ hf]
    exact hp

end Heap

section Ready

variable {W : World} {f : Nat} {h : Heap} {S : Scopes} {K : List Frame}

theorem Ready.put (hr : Ready W f h S K none) (e : Effect) :
    Ready W f (h.updateCode f fun c => { c with instr := some e }) S K (some e) := by
  have hp : (h.updateCode f fun c => { c with instr := some e }) = h.setCode f ⟨some e, K⟩ :=
    Heap.updateCode_congr (by rw [hr.code])
  rw [hp]
  exact hr.setCode (some e) K

end Ready

namespace Machine

open Heap

@[simp] theorem exec_setInstr (f : Nat) (e : Effect) (h : Heap) :
    exec (setInstr f e) h = (.ok (), h.updateCode f fun c => { c with instr := some e }) := rfl

theorem exec_disposeAll_nil (n : Nat) (h : Heap) : exec (disposeAll (n + 1) []) h = (.ok (), h) := by
  rw [disposeAll]
  rfl

theorem exec_callAll_nil (n : Nat) (v : Val) (h : Heap) : exec (callAll (n + 1) [] v) h = (.ok (), h) := by
  rw [callAll]
  rfl

namespace Needs

variable {α : Type} {m m' : Nat → Machine α} {h h' : Heap} {c d : Nat} {R : Except Fault α × Heap}

theorem of_ok (hm : Needs m h c R) {n : Nat} {a : α} {H : Heap} (he : exec (m n) h = (.ok a, H)) :
    R = (.ok a, H) := by
  rw [← he, hm.run (hm.le_of_ne (by rw [he]; simp))]

theorem after (h0 : (exec (m 0) h).1 = .error .outOfFuel)
    (hlow : ∀ n, n < c → (exec (m (n + 1)) h).1 = .error .outOfFuel)
    (hhigh : ∀ n, c ≤ n → exec (m (n + 1)) h = exec (m' n) h') (hm' : Needs m' h' d R) :
    Needs m h (max c d + 1) R := by
  intro n
  cases n with
  | zero => exact ⟨fun hn => absurd hn (by omega), fun _ => h0⟩
  | succ n =>
    by_cases hc : n < c
    · exact ⟨fun hn => absurd hn (by omega), fun _ => hlow n hc⟩
    · rw [hhigh n (by omega)]
      exact ⟨fun hn => hm'.run (by omega), fun hn => (hm' n).2 (by omega)⟩

end Needs

section Turns

variable {W : World} {f : Nat} {h : Heap} {S : Scopes} {K : List Frame} {e : Effect}

/-- A fiber with no instruction has nothing to run: its loop stops at once. -/
theorem needs_turns_idle (hc : (h.codeOf f).instr = none) : Needs (turns · f) h 1 (.ok (), h) := by
  have hsame : (h.updateCode f fun c => { c with instr := none }) = h.setCode f (h.codeOf f) :=
    Heap.updateCode_congr (by rw [← hc])
  have hset : h.setCode f (h.codeOf f) = h := by
    rcases Nat.lt_or_ge f h.code.size with hf | hf
    · unfold Heap.setCode Heap.updateCode
      congr 1
      apply Array.ext_getElem?
      intro j
      rw [Array.getElem?_modify]
      split
      · subst_vars
        simp [Heap.codeOf, hf]
      · rfl
    · exact Heap.updateCode_of_le _ hf
  intro n
  beta_reduce
  cases n with
  | zero => exact ⟨fun hn => absurd hn (by omega), fun _ => by rw [turns]; rfl⟩
  | succ n =>
    refine ⟨fun _ => ?_, fun hn => absurd hn (by omega)⟩
    rw [turns]
    simp only [exec_bind, exec_takeInstr, hc, hsame, hset]
    rfl

theorem turns_next (hr : Ready W f h S K (some e)) {R : Except Fault Outcome × Heap} {e' : Effect}
    {K' : List Frame} {S' : Scopes} (hl : Lands W f R (.next ⟨e', K', S'⟩)) :
    ∃ H, Ready W f H S' K' (some e') ∧
      ∀ n, exec (step n f e) (h.setCode f ⟨none, K⟩) = R → exec (turns (n + 1) f) h = exec (turns n f) H := by
  obtain ⟨h', hr', hR⟩ := hl
  have hinstr : (h.codeOf f).instr = some e := by rw [hr.code]
  rw [← Heap.updateCode_take hr.code]
  rcases hR with rfl | ⟨m, rfl, rfl⟩
  · exact ⟨_, hr'.put e', fun n hs => exec_turns_next hinstr hr.interruptsNow hs⟩
  · refine ⟨_, ?_, fun n hs => exec_turns_of_panic hinstr hr.interruptsNow hs⟩
    rw [hr'.alone.fiberUnixTime]
    exact hr'.put _

/-- A turn whose step suspends the fiber goes on with nothing to run. -/
theorem exec_turns_suspend (hr : Ready W f h S K (some e)) {n : Nat} {H : Heap}
    (hs : exec (step n f e) (h.setCode f ⟨none, K⟩) = (.ok .suspend, H)) :
    exec (turns (n + 1) f) h = exec (turns n f) H := by
  have hinstr : (h.codeOf f).instr = some e := by rw [hr.code]
  have hcalm : ((h.updateCode f fun c => { c with instr := none }).book f).interruptsNow = false := by
    simpa using hr.interruptsNow
  rw [← Heap.updateCode_take hr.code] at hs
  rw [turns]
  simp only [exec_bind, exec_takeInstr, hinstr, exec_takeInterrupt_of_calm hcalm, exec_tryCatch, hs]

/-- A turn whose frames ran out hands the exit to `done`. -/
theorem exec_turns_done (hr : Ready W f h S K (some e)) {n : Nat} {x : Exit} {H : Heap}
    (hs : exec (step n f e) (h.setCode f ⟨none, K⟩) = (.ok (.done x), H)) :
    exec (turns (n + 1) f) h = exec (done n f x >>= fun _ => turns n f) H := by
  have hinstr : (h.codeOf f).instr = some e := by rw [hr.code]
  have hcalm : ((h.updateCode f fun c => { c with instr := none }).book f).interruptsNow = false := by
    simpa using hr.interruptsNow
  rw [← Heap.updateCode_take hr.code] at hs
  rw [turns]
  simp only [exec_bind, exec_takeInstr, hinstr, exec_takeInterrupt_of_calm hcalm, exec_tryCatch, hs]

/-- Frames that ran out publish the exit. -/
theorem needs_done (hr : Ready W f h S [] none) (x : Exit) :
    ∃ H, Needs (done · f x) h 3 (.ok (), H) ∧ H.Published f x ∧ (H.book f).suspension = none ∧
      (H.codeOf f).instr = none := by
  obtain ⟨cell, hcell, hmem, hdisp⟩ := hr.group
  have hq := hr.alone.quiet
  have hb := hr.alone.hasBook
  -- completing: the code emptied, the exit stored, the group taken, the observers taken
  let F : FiberBook → FiberBook := fun b => { b with suspension := none, exit := some x }
  let H₁ := (h.updateCode f fun _ => {}).updateBook f F
  have hbook₁ : H₁.book f = F (h.book f) := book_updateBook_self _ (by simpa using hb)
  let cell' : GroupCell := { cell with members := [], disposed := true }
  let D₂ : Data := { H₁.data with groups := H₁.data.groups.set! (h.book f).group cell' }
  have htake : H₁.data.groupTake (H₁.book f).group = ([], D₂) := by
    have hc : H₁.data.groups[(h.book f).group]? = some cell := hcell
    simp [hbook₁, F, Data.groupTake, hc, hdisp, hmem, D₂, cell']
  let H₃ := (H₁.setData D₂).updateBook f fun b => { b with observers := [] }
  have hobs : ((H₁.setData D₂).book f).observers = [] := by
    show (D₂.fiber f).observers = []
    exact (hbook₁ ▸ hq.observers : (H₁.book f).observers = [])
  have hto : (H₁.setData D₂).data.takeObservers f = ([], D₂.modifyFiber f fun b => { b with observers := [] }) := by
    simp only [Data.takeObservers]
    rw [show (H₁.setData D₂).data.fiber f = (H₁.setData D₂).book f from rfl, hobs]
    rfl
  have hcomplete : ∀ n, exec (complete (n + 1) f x) h = exec (disposeAll n [] >>= fun _ =>
      (modifyGetData fun d => d.takeObservers f) >>= fun obs => callAll n obs (.exit x)) (H₁.setData D₂) := by
    intro n
    simp only [H₁, F] at htake
    rw [complete]
    simp only [exec_bind, exec_book, hq.exit, Option.isSome_none, Bool.false_eq_true, ↓reduceIte,
      exec_modifyCode, exec_modifyBook, exec_modifyGetData, htake]
    rfl
  -- emptying the group and calling the observers each need one unit of fuel
  have hcomp : Needs (complete · f x) h 2 (.ok (), H₃) := by
    intro n
    beta_reduce
    rcases n with _ | _ | n
    · exact ⟨fun hn => absurd hn (by omega), fun _ => by rw [complete]; rfl⟩
    · exact ⟨fun hn => absurd hn (by omega), fun _ => by rw [hcomplete 0, exec_bind, disposeAll]; rfl⟩
    · refine ⟨fun _ => ?_, fun hn => absurd hn (by omega)⟩
      rw [hcomplete (n + 1)]
      simp only [exec_bind, exec_disposeAll_nil, exec_modifyGetData, hto, exec_callAll_nil]
      rfl
  have hdone : ∀ n, exec (done (n + 1) f x) h = exec (complete n f x) h := by
    intro n
    rw [done]
    simp only [exec_bind, exec_book, hq.pendingExit, exec_data, hr.alone.children, List.isEmpty_nil, ↓reduceIte]
  have hsz : f < (H₁.setData D₂).data.fibers.size := by simpa [H₁, D₂] using hb
  have hbook₃ : H₃.book f = { F (h.book f) with observers := [] } := by
    rw [book_updateBook_self _ hsz]
    show { H₁.book f with observers := [] } = _
    rw [hbook₁]
  refine ⟨H₃, .succ (by rw [done]; rfl) hdone hcomp, by rw [Published, hbook₃], by rw [hbook₃], ?_⟩
  simp [H₃, H₁, hr.alone.hasCode]

/-- The turn after the frames ran out: the exit is published and the loop stops. -/
theorem needs_done_turns (hr : Ready W f h S [] none) (x : Exit) :
    ∃ H, Needs (fun n => done n f x >>= fun _ => turns n f) h 3 (.ok (), H) ∧ H.Published f x ∧
      (H.book f).suspension = none := by
  obtain ⟨H, hn, hp, hs, hi⟩ := needs_done hr x
  have hboth : Needs (fun n => done n f x >>= fun _ => turns n f) h (max 3 1) (.ok (), H) := by
    apply hn.bind
    exact needs_turns_idle hi
  exact ⟨H, hboth, hp, hs⟩

end Turns

section Entry

variable {W : World} {f : Nat} {H : Heap} {S : Scopes} {K : List Frame} {k : Nat}

/-- The loop's last step marks the fiber not running. -/
theorem exec_then_rest {m : Machine Unit} {h h' : Heap} :
    exec (m >>= fun _ => modifyBook f fun b => { b with running := false }) h = (.ok (), h') ↔
      ∃ H, exec m h = (.ok (), H) ∧ h' = H.rest f := by
  rw [exec_bind]
  rcases exec m h with ⟨_ | u, H⟩
  · constructor
    · intro he
      cases he
    · rintro ⟨H', he, -⟩
      cases he
  · constructor
    · intro he
      cases he
      exact ⟨H, rfl, rfl⟩
    · rintro ⟨H', he, rfl⟩
      cases he
      rfl

theorem exec_resume (hw : Waiting W f H S K k) (e : Effect) :
    ∃ H₁, Ready W f H₁ S K (some e) ∧
      (∀ n, n < 3 → (exec (resume n f e) (H.rest f)).1 = .error .outOfFuel) ∧
      ∀ n, exec (resume (n + 3) f e) (H.rest f) =
        exec (turns (n + 1) f >>= fun _ => modifyBook f fun b => { b with running := false }) H₁ := by
  obtain ⟨ha, hcode, sub, link, w, key, nk, hsus, hsub, hwk, hlink, hgrp⟩ := hw
  have hb := ha.hasBook
  have hne : link ≠ sub := by
    rintro rfl
    rw [hsub] at hlink
    simp at hlink
  have hsus₀ : ((H.rest f).book f).suspension = some ⟨sub, link⟩ := by rw [book_rest hb]; exact hsus
  -- the suspension cleared, the subscription disposed, the watcher stopped
  let G₁ := (H.rest f).updateBook f fun b => { b with suspension := none }
  have hk₁ : G₁.data.disposables[sub]? = some ⟨false, some (.unwatch w)⟩ := hsub
  have ht₁ : G₁.data.takeDisposal sub = (some (.unwatch w),
      { G₁.data with disposables := H.data.disposables.set! sub { disposed := true } }) := by
    simp [Data.takeDisposal, hk₁]
    rfl
  let D₁ : Data := { G₁.data with disposables := H.data.disposables.set! sub { disposed := true } }
  obtain ⟨ws, hws⟩ : ∃ ws, (D₁.takeWatcher w).2 = { D₁ with watchers := ws } := Data.takeWatcher_frame w
  let D₂ := ((G₁.data.takeDisposal sub).2.takeWatcher w).2.dropWatcher k w
  have hD₂ : D₂ = ({ D₁ with watchers := ws } : Data).dropWatcher k w := by
    simp only [D₂, ht₁]
    rw [hws]
  have hd₁ : ∀ n, exec (dispose (n + 2) sub) G₁ = (.ok (), G₁.setData D₂) := fun n => by
    rw [exec_dispose_unwatch n hk₁, Data.unwatch_of_lookup (by rw [ht₁]; exact hwk)]
  -- the link disposed, which detaches the subscription from the group
  have hk₂ : ((G₁.setData D₂).data.takeDisposal link).1 = some (.detach (H.book f).group key) := by
    simp [hD₂, D₁, Data.takeDisposal, Data.dropWatcher, hne.symm, hlink]
  have ht₂ : (G₁.setData D₂).data.takeDisposal link = (some (.detach (H.book f).group key),
      { D₂ with disposables := D₂.disposables.set! link { disposed := true } }) := by
    have : D₂.disposables[link]? = some ⟨false, some (.detach (H.book f).group key)⟩ := by
      simp [hD₂, D₁, Data.dropWatcher, hne.symm, hlink]
    simp [Data.takeDisposal, this]
  let D₃ := ({ D₂ with disposables := D₂.disposables.set! link { disposed := true } } : Data).groupDetach
    (H.book f).group key
  have hd₂ : ∀ n, exec (dispose (n + 2) link) (G₁.setData D₂) = (.ok (), G₁.setData D₃) := by
    intro n
    rw [exec_dispose_release hk₂ (n + 1), ht₂]
    simp only [release, exec_modifyData]
    rfl
  -- the data keeps everything the fiber's configuration reads, and the group is idle again
  have hf₃ : D₃.fibers = G₁.data.fibers := by
    simp only [D₃, hD₂]
    rfl
  have hs₃ : D₃.scopes = H.data.scopes := by
    simp only [D₃, hD₂]
    rfl
  have ht₃ : D₃.unixTimeIn = H.data.unixTimeIn := by
    simp only [D₃, hD₂]
    rfl
  have hg₃ : D₃.groups[(H.book f).group]? = some ⟨[], nk, false⟩ := by
    simp only [D₃, hD₂]
    simp [D₁, Data.groupDetach, Data.dropWatcher, Data.modifyAt, Array.getElem?_modify, hgrp, G₁,
      Heap.rest, Heap.updateBook, Data.modifyFiber]
  let G₄ := (G₁.setData D₃).updateCode f fun c => { c with instr := some e }
  have hbook₁ : G₁.book f = { { H.book f with running := false } with suspension := none } := by
    rw [book_updateBook_self _ (by simpa [Heap.rest] using hb), book_rest hb]
  have hbook₄ : G₄.book f = G₁.book f := by
    show D₃.fiber f = G₁.data.fiber f
    simp only [Data.fiber, hf₃]
  have hrun : (G₄.book f).running = false := by rw [hbook₄, hbook₁]
  have hexit : (G₄.book f).exit = none := by rw [hbook₄, hbook₁]; exact ha.quiet.exit
  have hsz₄ : f < G₄.data.fibers.size := by
    show f < D₃.fibers.size
    rw [hf₃]
    simpa [G₁, Heap.rest] using hb
  -- the loop marks the fiber running again, which undoes the rest
  have hbook₅ : (G₄.updateBook f fun b => { b with running := true }).book f =
      { H.book f with suspension := none } := by
    rw [book_updateBook_self _ hsz₄, hbook₄, hbook₁]
    simp [ha.running]
  have hready : Ready W f (G₄.updateBook f fun b => { b with running := true }) S K (some e) := by
    obtain ⟨hc, _, hs, hq, hrun, hch, ⟨htime, heff, hbld, hfut⟩⟩ := ha
    have hagree : (G₄.updateBook f fun b => { b with running := true }).Agrees W := by
      refine ⟨?_, heff, hbld, hfut⟩
      rw [Heap.unixTimeIn_updateBook]
      simp only [G₄, Heap.data_updateCode, Heap.data_setData]
      exact ht₃.trans htime
    have hch₅ : (G₄.updateBook f fun b => { b with running := true }).data.children
        (H.book f).scope = [] := by
      rw [Heap.children_updateBook]
      simp only [G₄, Heap.data_updateCode, Heap.data_setData]
      rw [Data.children, hs₃]
      exact hch
    refine ⟨⟨by simpa [G₄, G₁, Heap.rest] using hc, by simpa using hsz₄, by rw [hbook₅]; exact hs,
      by rw [hbook₅]; exact ⟨hq.cause, hq.interrupting, hq.finalizing, hq.pendingExit, hq.exit, hq.observers⟩,
      by rw [hbook₅]; exact hrun, by rw [hbook₅]; exact hch₅, hagree⟩, ?_, by rw [hbook₅], ?_⟩
    · simp [G₄, G₁, Heap.rest, hc, hcode]
    rw [hbook₅]
    refine ⟨⟨[], nk, false⟩, ?_, rfl, rfl⟩
    rw [Heap.groups_updateBook]
    simp only [G₄, Heap.data_updateCode, Heap.data_setData]
    exact hg₃
  have hr₁ : (G₁.data.takeDisposal sub).1 = some (.unwatch w) := by rw [ht₁]
  simp only [G₄, G₁] at hd₁ hd₂ hrun hexit hr₁
  refine ⟨G₄.updateBook f fun b => { b with running := true }, hready, fun n hn => ?_, fun n => ?_⟩
  · rcases n with _ | _ | _ | n
    · rw [resume]; rfl
    · rw [resume]
      simp only [exec_bind, exec_book, hsus₀, exec_modifyBook]
      rw [dispose]
      rfl
    · rw [resume]
      simp only [exec_bind, exec_book, hsus₀, exec_modifyBook]
      rw [exec_dispose_release hr₁ 0, release]
      rfl
    · omega
  · rw [resume]
    simp only [exec_bind, exec_book, hsus₀, exec_modifyBook]
    rw [hd₁]
    simp only [hd₂, exec_setInstr]
    rw [runLoop]
    simp only [exec_bind, exec_book, hrun, hexit, Option.isSome_none, Bool.or_false, Bool.false_eq_true,
      ↓reduceIte, exec_modifyBook]
    rfl

theorem exec_start_newFiber {h : Heap} {φ : Nat → Option Effect} (e : Effect) (id : FiberId)
    {opts : Options} (hsize : h.code.size = h.data.fibers.size) (hscope : h.data.children opts.scope = [])
    (hφ : ∀ k e, h.futures[k]? = some (some e) → φ k = some e) :
    ∃ H₀, Ready (h.world φ) h.data.fibers.size H₀ opts.scopes [] (some e) ∧
      (∀ n, n < 2 → (exec (start n h.data.fibers.size) (exec (newFiber e id opts) h).2).1 =
        .error .outOfFuel) ∧
      ∀ n, exec (start (n + 2) h.data.fibers.size) (exec (newFiber e id opts) h).2 =
        exec ((turns n h.data.fibers.size >>= fun _ =>
          modifyBook h.data.fibers.size fun b => { b with running := false }) >>= fun _ => pure true) H₀ := by
  let f := h.data.fibers.size
  let b : FiberBook :=
    { id, scope := opts.scope, baseStore := opts.store, context := .new opts.context,
      stores := .new opts.store, flags := .new opts.flags, group := h.data.groups.size }
  let d₁ : Data := { h.data with groups := h.data.groups.push ({} : GroupCell), fibers := h.data.fibers.push b }
  let h₁ : Heap := { h with data := d₁, code := h.code.push ⟨some e, []⟩ }
  have hnew : (exec (newFiber e id opts) h).2 = h₁ := rfl
  have hbook₁ : h₁.book f = b := by simp [h₁, d₁, f, Heap.book, Data.fiber]
  -- the fiber marked started by `start`, then running by its loop
  let H₀ := (h₁.updateBook f fun b => { b with started := true }).updateBook f fun b => { b with running := true }
  have hsz : f < h₁.data.fibers.size := by simp [h₁, d₁, f]
  have hbook₀ : H₀.book f = { b with started := true, running := true } := by
    rw [book_updateBook_self _ (by simpa using hsz), book_updateBook_self _ hsz, hbook₁]
  have hready : Ready (h.world φ) f H₀ opts.scopes [] (some e) := by
    refine ⟨⟨by simp [H₀, h₁, f, hsize], by simpa [H₀] using hsz, by rw [hbook₀]; rfl,
      by rw [hbook₀]; exact ⟨rfl, rfl, rfl, rfl, rfl, rfl⟩, by rw [hbook₀], by rw [hbook₀]; exact hscope,
      ⟨rfl, fun k => rfl, fun k => rfl, hφ⟩⟩, by simp [H₀, h₁, Heap.codeOf, f, ← hsize], by rw [hbook₀], ?_⟩
    rw [hbook₀]
    exact ⟨{}, by simp [H₀, h₁, d₁, b, Heap.updateBook, Data.modifyFiber], rfl, rfl⟩
  have hstarted : (h₁.book f).started = false := by rw [hbook₁]
  have hbook₂ : (h₁.updateBook f fun b => { b with started := true }).book f = { b with started := true } := by
    rw [book_updateBook_self _ hsz, hbook₁]
  have hrb : b.running = false := rfl
  have hxb : b.exit = none := rfl
  simp only [f] at hstarted hbook₂
  refine ⟨H₀, hready, fun n hn => ?_, fun n => ?_⟩
  · rw [hnew]
    rcases n with _ | _ | n
    · rw [start]; rfl
    · rw [start]
      simp only [exec_bind, exec_book, hstarted, Bool.false_eq_true, ↓reduceIte, exec_modifyBook]
      rw [runLoop]
      rfl
    · omega
  · rw [hnew, start]
    simp only [exec_bind, exec_book, hstarted, Bool.false_eq_true, ↓reduceIte, exec_modifyBook]
    rw [runLoop]
    simp only [exec_bind, exec_book, hbook₂, hrb, hxb, Bool.or_false, Option.isSome_none, Bool.false_eq_true,
      ↓reduceIte, exec_modifyBook]
    rfl

end Entry

end Machine

end FiberEffects
