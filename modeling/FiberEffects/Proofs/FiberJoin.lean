import FiberEffects.Fiber.Fork
import FiberEffects.Proofs.HandlerFrames
import FiberEffects.Proofs.StorePolicies

namespace FiberEffects

namespace Heap

variable {h : Heap} {f : Nat}

def resolver (k : Nat) : Val → Cmd Val := fun v => do
  discard (Cmd.complete k (Effect.of v))
  pure .unit

def waitingOn (h : Heap) (g : Nat) : Heap :=
  let h₁ : Heap := { h with
    futures := h.futures.push none, data := { h.data with futures := h.data.futures.push {} },
    fns := h.fns.push (resolver h.futures.size) }
  h₁.setData (h₁.data.addObserver g h.fns.size).2

theorem waitingOn_future (g : Nat) : (h.waitingOn g).futures[h.futures.size]? = some none := by
  simp [waitingOn, setData]

theorem waitingOn_fn (g : Nat) : (h.waitingOn g).fns[h.fns.size]? = some (resolver h.futures.size) := by
  simp [waitingOn, setData]

theorem waitingOn_observer {g : Nat} (hg : g < h.data.fibers.size) :
    ∃ key, (key, h.fns.size) ∈ ((h.waitingOn g).book g).observers := by
  refine ⟨(h.book g).nextObserver, ?_⟩
  simp [waitingOn, book, Data.addObserver, Data.newDisposable, Data.fiber, Data.modifyFiber, Data.modifyAt,
    Array.getElem_modify, hg]

theorem waitingOn_setCode (g : Nat) (c : FiberCode) : (h.setCode f c).waitingOn g = (h.waitingOn g).setCode f c :=
  rfl

end Heap

namespace Data

@[simp] theorem fiber_mergeStore (w : Nat → Val → Val) (d : Data) (child parent g : Nat) :
    (d.mergeStore w child parent).fiber g = d.fiber g := by
  unfold mergeStore
  split <;> rfl

end Data

namespace Effect

def joinCont (g : Nat) : Val → Cmd Effect :=
  match (join g).instr with
  | .flatMap _ k => k
  | _ => fun _ => pure unit

theorem join_eq_flatMap (g : Nat) : join g = flatMap (fiberExit g) (joinCont g) := rfl

end Effect

namespace Machine

variable {n f : Nat} {h : Heap}

theorem pushes_inherit (b : Nat) :
    Pushes (Effect.inherit b) Effect.getStore (.map fun parent => do Cmd.joinInto b parent.toNat; pure .unit) :=
  pushes_map _ _

/-- Waiting on a fiber that is done goes on with its exit at once. -/
theorem exec_step_fiberExit_of_exit {g : Nat} {x : Exit} (hx : (h.data.fiber g).exit = some x) :
    exec (step (n + 3) f (Effect.fiberExit g)) h = (.ok (.next (Effect.of (.exit x))), h) := by
  rw [step]
  dsimp only [Effect.fiberExit, Effect.suspend, Effect.node, Effect.instr]
  rw [exec_map, exec_runCmd_fiberExit_bind, hx]
  dsimp only
  rw [exec_runCmd_pure]

theorem exec_step_fiberExit_pending {g : Nat} (hx : (h.data.fiber g).exit = none) :
    exec (step (n + 7) f (Effect.fiberExit g)) h =
      (.ok (.next (Effect.await h.futures.size)), h.waitingOn g) := by
  rw [step]
  dsimp only [Effect.fiberExit, Effect.suspend, Effect.node, Effect.instr]
  rw [exec_map, exec_runCmd_fiberExit_bind, hx]
  dsimp only
  rw [newFuture_bind, exec_runCmd_newFuture]
  dsimp only [Val.toNat, Cmd.keepAction]
  rw [keepFn_bind, exec_runCmd_keepFn]
  dsimp only [Val.toNat, Cmd.observe]
  rw [discard_bind, Prog.bind_assoc, exec_runCmd_fiberExit_bind]
  dsimp only [Data.fiber] at hx ⊢
  rw [hx]
  dsimp only
  rw [ask_map_bind, exec_runCmd_observe, exec_runCmd_pure]
  rfl

section Turns

variable {e e' : Effect} {fs : List Frame}

theorem exec_turns_fiberExit_of_exit {g : Nat} {x : Exit} (hc : h.codeOf f = ⟨some (Effect.fiberExit g), fs⟩)
    (hnow : (h.book f).interruptsNow = false) (hx : (h.data.fiber g).exit = some x) :
    exec (turns (n + 4) f) h = exec (turns (n + 3) f) (h.setCode f ⟨some (Effect.of (.exit x)), fs⟩) := by
  exact exec_turns_code hc hnow (exec_step_fiberExit_of_exit (h := h.setCode f ⟨none, fs⟩) hx)

theorem pushes_join (g : Nat) : Pushes (Effect.join g) (Effect.fiberExit g) (.flatMap (Effect.joinCont g)) :=
  pushes_flatMap _ _

theorem exec_turns_joinCont {g : Nat} {x : Exit}
    (hc : h.codeOf f = ⟨some (Effect.of (.exit x)), .flatMap (Effect.joinCont g) :: fs⟩)
    (hnow : (h.book f).interruptsNow = false) :
    exec (turns (n + 5) f) h = exec (turns (n + 4) f) (h.setCode f
      ⟨some (Effect.flatMap (Effect.inherit (h.data.fiber g).baseStore) fun _ => pure (Effect.fromExit x)), fs⟩) := by
  have hf : f < h.code.size := lt_code_of_instr (e := Effect.of (.exit x)) (by rw [hc])
  refine exec_turns_code hc hnow ?_
  rw [step]
  dsimp only [Effect.of, Effect.node, Effect.instr]
  rw [exec_continueWith_flatMap hf, exec_map]
  dsimp only [Effect.joinCont, Effect.join, Effect.flatMap, Effect.node, Effect.instr]
  rw [exec_runCmd_read_bind _ Answer.ofVal_toVal_nat, exec_runCmd_pure]
  rfl

theorem exec_turns_merge (w : Nat → Val → Val) {b : Nat} {e : Effect}
    (hc : h.codeOf f = ⟨some Effect.getStore,
      .map (fun parent => do Cmd.joinInto b parent.toNat; pure .unit) :: .flatMap (fun _ => pure e) :: fs⟩)
    (hnow : (h.book f).interruptsNow = false)
    (hw : ∀ p ∈ (h.data.store b).policies, ∀ fn, p.join = .custom fn → h.Returns w fn)
    (hfuel : (exec (turns (n + 5) f) h).1 ≠ .error .outOfFuel) :
    exec (turns (n + 5) f) h = exec (turns (n + 4) f)
      ((h.setData (h.data.mergeStore w b (h.book f).stores.current)).setCode f ⟨some e, fs⟩) := by
  have hf : f < h.code.size := lt_code_of_instr (e := Effect.getStore) (by rw [hc])
  set cur := (h.book f).stores.current
  set G : Val → Cmd Val := fun parent => do Cmd.joinInto b parent.toNat; pure .unit
  set K : Val → Cmd Effect := fun _ => pure e
  set H := h.setCode f ⟨none, .flatMap K :: fs⟩
  -- the store is read and handed to the map frame, which runs the merge
  have hstep : exec (step (n + 4) f Effect.getStore) (h.setCode f ⟨none, .map G :: .flatMap K :: fs⟩) =
      exec (runCmd (n + 2) (G (.store cur)) >>= continueWith (n + 2) f) H := by
    rw [step]
    dsimp only [Effect.getStore, Effect.node, Effect.instr]
    rw [exec_bind, exec_book]
    exact exec_continueWith_map hf _
  have hG : Cmd.Contract (G (.store cur)) (· = H) fun v h' => v = .unit ∧ h' = H.setData (H.data.mergeStore w b cur) :=
    (Cmd.contract_joinInto w b cur H hw).bind fun _ => Cmd.contract_pure _ fun _ hh => ⟨rfl, hh⟩
  have hfuelG : (exec (runCmd (n + 2) (G (.store cur))) H).1 ≠ .error .outOfFuel := by
    intro hout
    refine hfuel (exec_turns_fault hc hnow ?_)
    rw [hstep, exec_bind]
    rcases hr : exec (runCmd (n + 2) (G (.store cur))) H with ⟨r, h''⟩
    rw [hr] at hout
    subst hout
    rfl
  obtain ⟨v, hv, rfl, hpost⟩ := hG.exec rfl hfuelG
  have hmerge : exec (runCmd (n + 2) (G (.store cur))) H =
      (.ok .unit, (h.setData (h.data.mergeStore w b cur)).setCode f ⟨none, .flatMap K :: fs⟩) := by
    rw [← hv]
    exact Prod.ext rfl hpost
  -- past the merge, the join's last frame goes on with the effect kept for after
  refine exec_turns_code hc hnow ?_
  rw [hstep, exec_bind, hmerge]
  dsimp only
  rw [exec_continueWith_flatMap (by simpa using hf), exec_map, exec_runCmd_pure]

theorem exec_turns_join_pending {g : Nat} (hc : h.codeOf f = ⟨some (Effect.join g), fs⟩)
    (hnow : (h.book f).interruptsNow = false) (hx : (h.data.fiber g).exit = none) :
    exec (turns (n + 10) f) h = exec (turns (n + 8) f)
      ((h.waitingOn g).setCode f ⟨some (Effect.await h.futures.size), .flatMap (Effect.joinCont g) :: fs⟩) := by
  have hf : f < h.code.size := lt_code_of_instr (e := Effect.join g) (by rw [hc])
  rw [exec_turns_push (n := n + 8) hc hnow (pushes_join g)]
  refine exec_turns_code (Heap.codeOf_setCode _ hf) hnow ?_
  rw [Heap.setCode_setCode, ← Heap.waitingOn_setCode]
  exact exec_step_fiberExit_pending hx

theorem exec_turns_join_merges (w : Nat → Val → Val) {g : Nat} {x : Exit}
    (hc : h.codeOf f = ⟨some (Effect.of (.exit x)), .flatMap (Effect.joinCont g) :: fs⟩)
    (hnow : (h.book f).interruptsNow = false)
    (hw : ∀ p ∈ (h.data.store (h.data.fiber g).baseStore).policies, ∀ fn, p.join = .custom fn → h.Returns w fn)
    (hfuel : (exec (turns (n + 8) f) h).1 ≠ .error .outOfFuel) :
    exec (turns (n + 8) f) h = exec (turns (n + 4) f)
      ((h.setData (h.data.mergeStore w (h.data.fiber g).baseStore (h.book f).stores.current)).setCode f
        ⟨some (Effect.fromExit x), fs⟩) := by
  have hf : f < h.code.size := lt_code_of_instr (e := Effect.of (.exit x)) (by rw [hc])
  have hcalm : ∀ c, ((h.setCode f c).book f).interruptsNow = false := fun _ => hnow
  rw [exec_turns_joinCont (n := n + 3) hc hnow] at hfuel ⊢
  -- the merge pushes the frame that ends the join, then the frame that runs the merge
  rw [exec_turns_push (n := n + 5) (Heap.codeOf_setCode _ hf) (hcalm _) (pushes_flatMap _ _),
    Heap.setCode_setCode] at hfuel ⊢
  rw [exec_turns_push (n := n + 4) (Heap.codeOf_setCode _ hf) (hcalm _) (pushes_inherit _),
    Heap.setCode_setCode] at hfuel ⊢
  rw [exec_turns_merge w (Heap.codeOf_setCode _ hf) (hcalm _) hw hfuel, Heap.data_setCode, Heap.book_setCode,
    Heap.setData_setCode, Heap.setCode_setCode]

theorem exec_turns_join_exited (w : Nat → Val → Val) {g : Nat} {x : Exit}
    (hc : h.codeOf f = ⟨some (Effect.join g), fs⟩) (hnow : (h.book f).interruptsNow = false)
    (hx : (h.data.fiber g).exit = some x)
    (hw : ∀ p ∈ (h.data.store (h.data.fiber g).baseStore).policies, ∀ fn, p.join = .custom fn → h.Returns w fn)
    (hfuel : (exec (turns (n + 10) f) h).1 ≠ .error .outOfFuel) :
    exec (turns (n + 10) f) h = exec (turns (n + 4) f)
      ((h.setData (h.data.mergeStore w (h.data.fiber g).baseStore (h.book f).stores.current)).setCode f
        ⟨some (Effect.fromExit x), fs⟩) := by
  have hf : f < h.code.size := lt_code_of_instr (e := Effect.join g) (by rw [hc])
  have hcalm : ∀ c, ((h.setCode f c).book f).interruptsNow = false := fun _ => hnow
  rw [exec_turns_push (n := n + 8) hc hnow (pushes_join g),
    exec_turns_fiberExit_of_exit (n := n + 5) (Heap.codeOf_setCode _ hf) (hcalm _) hx,
    Heap.setCode_setCode] at hfuel ⊢
  rw [exec_turns_join_merges w (Heap.codeOf_setCode _ hf) (hcalm _) hw hfuel, Heap.data_setCode, Heap.book_setCode,
    Heap.setData_setCode, Heap.setCode_setCode]

end Turns

end Machine

open Machine in
/-- Forking and joining stores follow each reference's policies. -/
theorem fork_and_join_follow_policies (w : Nat → Val → Val) :
    (∀ (s : Nat) (H : Heap), s < H.data.stores.size →
      (∀ p ∈ (H.data.store s).policies, ∀ fn, p.fork = .custom fn → H.Returns w fn) →
      Cmd.Contract (Cmd.forkStore s) (· = H) fun c h =>
        h.data.store c = (H.data.store s).forked w ∧ h.data.store s = H.data.store s ∧
        ∀ cell, (h.data.setStore s cell).store c = h.data.store c ∧
          (h.data.setStore c cell).store s = h.data.store s) ∧
    (∀ c : StoreCell, c.Keyed → ∀ r : RefId,
      (c.forked w).get? r = (match c.get? r, c.policy? r with
        | some v, some p => p.forkOf w v
        | some v, none => some v
        | none, _ => none) ∧
      (c.forked w).policy? r = (match c.get? r, c.policy? r with
        | some v, some p => if (p.forkOf w v).isSome then some p else none
        | _, _ => none)) ∧
    (∀ (child parent : Nat) (H : Heap),
      (∀ p ∈ (H.data.store child).policies, ∀ fn, p.join = .custom fn → H.Returns w fn) →
      Cmd.Contract (Cmd.joinInto child parent) (· = H) fun _ h =>
        h = H.setData (H.data.mergeStore w child parent)) ∧
    (∀ c p : StoreCell, c.Keyed → ∀ r : RefId,
      (c.joined w p).get? r = (match c.get? r with
        | some incoming => some (StoreCell.mergedValue w (p.get? r) (c.policy? r) incoming)
        | none => p.get? r) ∧
      (c.joined w p).policy? r = (match c.get? r, c.policy? r with
        | some _, some q => (p.policy? r).or (some q)
        | _, _ => p.policy? r)) ∧
    (∀ (d : Data) (s : Nat), d.mergeStore w s s = d) ∧
    (∀ (n f g : Nat) (h : Heap) (fs : List Frame) (x : Exit),
      h.codeOf f = ⟨some (Effect.join g), fs⟩ → (h.book f).interruptsNow = false →
      (h.data.fiber g).exit = some x →
      (∀ p ∈ (h.data.store (h.data.fiber g).baseStore).policies, ∀ fn, p.join = .custom fn → h.Returns w fn) →
      (exec (turns (n + 10) f) h).1 ≠ .error .outOfFuel →
      exec (turns (n + 10) f) h = exec (turns (n + 4) f)
        ((h.setData (h.data.mergeStore w (h.data.fiber g).baseStore (h.book f).stores.current)).setCode f
          ⟨some (Effect.fromExit x), fs⟩)) ∧
    (∀ (n f g : Nat) (h : Heap) (fs : List Frame),
      h.codeOf f = ⟨some (Effect.join g), fs⟩ → (h.book f).interruptsNow = false →
      (h.data.fiber g).exit = none → g < h.data.fibers.size →
      exec (turns (n + 10) f) h = exec (turns (n + 8) f)
        ((h.waitingOn g).setCode f ⟨some (Effect.await h.futures.size), .flatMap (Effect.joinCont g) :: fs⟩) ∧
      (h.waitingOn g).futures[h.futures.size]? = some none ∧
      (h.waitingOn g).fns[h.fns.size]? = some (Heap.resolver h.futures.size) ∧
      ∃ key, (key, h.fns.size) ∈ ((h.waitingOn g).book g).observers) ∧
    (∀ (n f g : Nat) (h : Heap) (fs : List Frame) (x : Exit),
      h.codeOf f = ⟨some (Effect.of (.exit x)), .flatMap (Effect.joinCont g) :: fs⟩ →
      (h.book f).interruptsNow = false →
      (∀ p ∈ (h.data.store (h.data.fiber g).baseStore).policies, ∀ fn, p.join = .custom fn → h.Returns w fn) →
      (exec (turns (n + 8) f) h).1 ≠ .error .outOfFuel →
      exec (turns (n + 8) f) h = exec (turns (n + 4) f)
        ((h.setData (h.data.mergeStore w (h.data.fiber g).baseStore (h.book f).stores.current)).setCode f
          ⟨some (Effect.fromExit x), fs⟩)) :=
  ⟨fun s H hs hw => Cmd.contract_forkStore_apart w s H hs hw,
    fun c hc r => ⟨StoreCell.get?_forked w c hc r, StoreCell.policy?_forked w c hc r⟩,
    fun child parent H hw => Cmd.contract_joinInto w child parent H hw,
    fun c p hc r => ⟨StoreCell.get?_joined w c p hc r, StoreCell.policy?_joined w c p hc r⟩,
    fun d s => Data.mergeStore_self w d s,
    fun _ _ _ _ _ _ hc hnow hx hw hfuel => exec_turns_join_exited w hc hnow hx hw hfuel,
    fun _ _ g _ _ hc hnow hx hg => ⟨exec_turns_join_pending hc hnow hx, Heap.waitingOn_future g,
      Heap.waitingOn_fn g, Heap.waitingOn_observer hg⟩,
    fun _ _ _ _ _ _ hc hnow hw hfuel => exec_turns_join_merges w hc hnow hw hfuel⟩

def sumJoin : Val → Val
  | .list [.nat a, .nat b] => .nat (a + b)
  | v => v

def totalRef : RefId := ⟨RefId.firstDynamic, "total"⟩

def joiningHeap (exit : Option Exit) : Heap :=
  { code := #[⟨some (Effect.join 1), []⟩, {}],
    fns := #[fun v => pure (sumJoin v)],
    data := {
      fibers := #[default, { (default : FiberBook) with exit, baseStore := 1 }],
      stores := #[{ values := [(totalRef, .nat 1)] },
        { values := [(totalRef, .nat 2)], policies := [{ id := totalRef, initial := none, join := .custom 0 }] }] } }

open Machine in
theorem joining_child_merges_or_waits :
    exec (turns 20 0) (joiningHeap (some (.ok (.nat 7)))) = exec (turns 14 0)
      (((joiningHeap (some (.ok (.nat 7)))).setData
        ((joiningHeap (some (.ok (.nat 7)))).data.mergeStore (fun _ => sumJoin) 1 0)).setCode 0
          ⟨some (Effect.fromExit (.ok (.nat 7))), []⟩) ∧
      (((joiningHeap (some (.ok (.nat 7)))).data.mergeStore (fun _ => sumJoin) 1 0).store 0).get? totalRef =
        some (.nat 3) ∧
    exec (turns 10 0) (joiningHeap none) = exec (turns 8 0)
      (((joiningHeap none).waitingOn 1).setCode 0
        ⟨some (Effect.await (joiningHeap none).futures.size), [.flatMap (Effect.joinCont 1)]⟩) := by
  have hok : (exec (turns 20 0) (joiningHeap (some (.ok (.nat 7))))).1.toBool = true := by decide +kernel
  have hfuel : (exec (turns 20 0) (joiningHeap (some (.ok (.nat 7))))).1 ≠ .error .outOfFuel :=
    Machine.ne_outOfFuel_of_toBool hok
  -- the only policy is the summing one, and the kept function 0 gives `sumJoin` at once
  have hpol : ∀ x, ∀ p ∈ ((joiningHeap x).data.store ((joiningHeap x).data.fiber 1).baseStore).policies,
      ∀ fn, p.join = .custom fn → (joiningHeap x).Returns (fun _ => sumJoin) fn := by
    intro x p hp fn hfn
    simp only [joiningHeap, Data.store, Data.fiber] at hp
    obtain rfl : p = { id := totalRef, initial := none, join := .custom 0 } := List.mem_singleton.1 hp
    cases hfn
    exact ⟨_, rfl, fun _ => rfl⟩
  exact ⟨(fork_and_join_follow_policies fun _ => sumJoin).2.2.2.2.2.1 10 0 1 _ [] (.ok (.nat 7)) rfl rfl rfl
      (hpol _) hfuel, rfl,
    ((fork_and_join_follow_policies fun _ => sumJoin).2.2.2.2.2.2.1 0 0 1 _ [] rfl rfl rfl (by decide)).1⟩

end FiberEffects
