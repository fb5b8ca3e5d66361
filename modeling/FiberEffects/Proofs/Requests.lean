import FiberEffects.Proofs.Primitives

namespace FiberEffects

namespace Prog

variable {σ ω α β γ : Type}

theorem bind_assoc (p : Prog σ ω α) (f : α → Prog σ ω β) (g : β → Prog σ ω γ) :
    (p >>= f) >>= g = p >>= fun a => f a >>= g := by
  induction p with
  | done a => rfl
  | panic m => rfl
  | call r k ih =>
    show Prog.call r (fun w => bind (bind (k w) f) g) =
      Prog.call r (fun w => bind (k w) fun a => bind (f a) g)
    congr 1
    funext w
    exact ih w

theorem bind_pure (p : Prog σ ω α) : (p >>= Prog.done) = p := bind_done p

end Prog

namespace Data

variable {d : Data} {k : Nat}

@[simp] theorem guard_self (d : Data) : d.guard d = d := by
  simp [guard]

theorem takeDisposal_frame (k : Nat) : ∃ ds, (d.takeDisposal k).2 = { d with disposables := ds } := by
  unfold takeDisposal
  split
  · exact ⟨_, rfl⟩
  · exact ⟨d.disposables, rfl⟩

theorem takeWatcher_frame (w : Nat) : ∃ ws, (d.takeWatcher w).2 = { d with watchers := ws } := by
  unfold takeWatcher
  split
  · exact ⟨_, rfl⟩
  · exact ⟨d.watchers, rfl⟩

theorem groupAdd_frame (g m : Nat) : ∃ gs, (d.groupAdd g m).2 = { d with groups := gs } := by
  unfold groupAdd
  cases d.groups[g]? with
  | none => exact ⟨d.groups, rfl⟩
  | some cell =>
    dsimp only
    split
    · exact ⟨d.groups, rfl⟩
    · exact ⟨_, rfl⟩

theorem groupTake_frame (g : Nat) : ∃ gs, (d.groupTake g).2 = { d with groups := gs } := by
  unfold groupTake
  cases d.groups[g]? with
  | none => exact ⟨d.groups, rfl⟩
  | some cell =>
    dsimp only
    split
    · exact ⟨d.groups, rfl⟩
    · exact ⟨_, rfl⟩

theorem removeTask_frame (c : Nat) (key : TimelineKey) :
    ∃ cs, (d.removeTask c key).2 = { d with cores := cs } := by
  unfold removeTask
  dsimp only
  split
  · exact ⟨_, rfl⟩
  · exact ⟨_, rfl⟩

def Released (d : Data) (k : Nat) : Prop := d.disposables[k]? = some { disposed := true }

theorem Released.lt (hr : d.Released k) : k < d.disposables.size :=
  (Array.getElem?_eq_some_iff.1 hr).1

theorem takeDisposal_of_released (hr : d.Released k) : d.takeDisposal k = (none, d) := by
  have hcell : d.disposables[k]? = some { disposed := true } := hr
  have hset : d.disposables.setIfInBounds k { disposed := true } = d.disposables :=
    Array.ext_getElem? fun i => by
      rw [Array.getElem?_setIfInBounds]
      split
      · subst_vars
        rw [if_pos hr.lt, hcell]
      · rfl
  simp [takeDisposal, hcell, Array.set!, hset]

theorem released_takeDisposal (hk : k < d.disposables.size) : (d.takeDisposal k).2.Released k := by
  unfold takeDisposal
  rw [Array.getElem?_eq_getElem hk]
  simp [Released, Array.set!, hk]

theorem released_of_takeDisposal {r : Release} (hk : (d.takeDisposal k).1 = some r) :
    (d.takeDisposal k).2.Released k := by
  apply released_takeDisposal
  by_contra hle
  rw [takeDisposal, Array.getElem?_eq_none (Nat.le_of_not_lt hle)] at hk
  cases hk

theorem Released.takeDisposal (hr : d.Released k) (j : Nat) : (d.takeDisposal j).2.Released k := by
  by_cases hj : j = k
  · subst hj
    rw [takeDisposal_of_released hr]
    exact hr
  · unfold Data.takeDisposal
    split
    · simp only [Released, Array.set!, Array.getElem?_setIfInBounds, if_neg hj]
      exact hr
    · exact hr

theorem Released.push (hr : d.Released k) {xs : Array DisposableCell} {c : DisposableCell}
    (hx : xs = d.disposables.push c) : xs[k]? = some { disposed := true } := by
  rw [hx, Array.getElem?_push, if_neg (Nat.ne_of_lt hr.lt)]
  exact hr

theorem Released.guard (hr : d.Released k) (d' : Data) : (d.guard d').Released k := by
  simp only [Released, Data.guard, Array.getElem?_append_left hr.lt]
  exact hr

end Data

namespace Machine

@[simp] theorem exec_modifyData (F : Data → Data) (h : Heap) :
    exec (modifyData F) h = (.ok (), h.setData (F h.data)) := rfl

@[simp] theorem exec_modifyGetData {α : Type} (F : Data → α × Data) (h : Heap) :
    exec (modifyGetData F) h = (.ok (F h.data).1, h.setData (F h.data).2) := rfl

@[simp] theorem exec_modifyCode (f : Nat) (g : FiberCode → FiberCode) (h : Heap) :
    exec (modifyCode f g) h = (.ok (), h.updateCode f g) := rfl

@[simp] theorem exec_data (h : Heap) : exec data h = (.ok h.data, h) := rfl

variable {h : Heap} {n : Nat}

theorem exec_runCmd_pure {α : Type} (a : α) (n : Nat) (h : Heap) :
    exec (runCmd (n + 1) (pure a : Cmd α)) h = (.ok a, h) := by
  show exec (runCmd (n + 1) (Prog.done a)) h = _
  rw [runCmd]
  rfl

theorem modify_bind {α β : Type} [Answer α] (f : Data → α × Data) (k : α → Cmd β) :
    (Cmd.modify f >>= k) =
      Prog.call (.data fun d => ((f d).2, Answer.toVal (f d).1)) fun v => k (Answer.ofVal v) :=
  rfl

theorem dispose_bind {β : Type} (k : Nat) (q : Unit → Cmd β) :
    (Cmd.dispose k >>= q) = Prog.call (.dispose k) fun _ => q () :=
  rfl

theorem call_bind {β : Type} (t : Nat) (v : Val) (q : Unit → Cmd β) :
    (discard (Cmd.call t v) >>= q) = Prog.call (.call t v) fun _ => q () :=
  rfl

theorem discard_bind {α β : Type} (x : Cmd α) (q : PUnit → Cmd β) :
    (discard x >>= q) = x >>= fun _ => q PUnit.unit := by
  show ((x >>= fun a => pure (Function.const α PUnit.unit a)) >>= q) = _
  rw [Prog.bind_assoc]
  rfl

theorem ask_map_bind {α β : Type} (r : Request) (g : Val → α) (q : α → Cmd β) :
    ((g <$> Prog.ask r : Cmd α) >>= q) = Prog.call r fun v => q (g v) := rfl

theorem newFuture_bind {β : Type} (e : Option Effect) (q : Nat → Cmd β) :
    (Cmd.newFuture e >>= q) = Prog.call (.newFuture e) fun v => q v.toNat := rfl

theorem keepFn_bind {β : Type} (g : Val → Cmd Val) (q : Nat → Cmd β) :
    (Cmd.keepFn g >>= q) = Prog.call (.keepFn g) fun v => q v.toNat := rfl

theorem exec_runCmd_data {α : Type} (f : Data → Data × Val) (k : Val → Cmd α) (n : Nat) :
    exec (runCmd (n + 2) (Prog.call (.data f) k)) h =
      exec (runCmd (n + 1) (k (f h.data).2)) (h.setData (h.data.guard (f h.data).1)) := by
  rw [runCmd, exec_bind, perform]
  rfl

theorem exec_runCmd_dispose {α : Type} (k : Nat) (q : Val → Cmd α) (n : Nat) :
    exec (runCmd (n + 2) (Prog.call (.dispose k) q)) h =
      exec (dispose n k >>= fun _ => runCmd (n + 1) (q .unit)) h := by
  rw [runCmd, perform]
  simp only [bind_assoc, pure_bind]

theorem exec_runCmd_read_bind {α β : Type} [Answer α] (g : Data → α)
    (hg : ∀ a : α, Answer.ofVal (Answer.toVal a) = a) (k : α → Cmd β) :
    exec (runCmd (n + 2) (Cmd.read g >>= k)) h = exec (runCmd (n + 1) (k (g h.data))) h := by
  rw [Cmd.read, modify_bind, exec_runCmd_data]
  simp only [Data.guard_self, hg]
  rfl

theorem exec_runCmd_fiberExit_bind {β : Type} (g : Nat) (k : Option Exit → Cmd β) :
    exec (runCmd (n + 2) (Cmd.fiberExit g >>= k)) h = exec (runCmd (n + 1) (k (h.data.fiber g).exit)) h :=
  exec_runCmd_read_bind _ (fun o => by cases o <;> rfl) k

theorem exec_runCmd_newFuture {α : Type} (e : Option Effect) (k : Val → Cmd α) :
    exec (runCmd (n + 2) (Prog.call (.newFuture e) k)) h =
      exec (runCmd (n + 1) (k (.future h.futures.size))) { h with
        futures := h.futures.push e, data := { h.data with futures := h.data.futures.push { resolved := e.isSome } } } := by
  rw [runCmd, exec_bind, perform]
  rfl

theorem exec_runCmd_keepFn {α : Type} (g : Val → Cmd Val) (k : Val → Cmd α) :
    exec (runCmd (n + 2) (Prog.call (.keepFn g) k)) h =
      exec (runCmd (n + 1) (k (.nat h.fns.size))) { h with fns := h.fns.push g } := by
  rw [runCmd, exec_bind, perform]
  rfl

theorem exec_runCmd_observe {α : Type} (g cb : Nat) (k : Val → Cmd α) :
    exec (runCmd (n + 2) (Prog.call (.observe g cb) k)) h =
      exec (runCmd (n + 1) (k (.nat (h.data.addObserver g cb).1))) (h.setData (h.data.addObserver g cb).2) := by
  rw [runCmd, exec_bind, perform]
  rfl

/-- A request is answered only with two units of fuel. -/
theorem fuel_of_call {α : Type} {r : Request} {k : Val → Cmd α} {n : Nat}
    (hfuel : (exec (runCmd n (Prog.call r k)) h).1 ≠ .error .outOfFuel) : ∃ m, n = m + 2 := by
  rcases n with _ | _ | m
  · rw [runCmd] at hfuel
    exact absurd rfl hfuel
  · rw [runCmd, exec_bind, perform] at hfuel
    exact absurd rfl hfuel
  · exact ⟨m, rfl⟩

/-- A run that returned a value did not run out of fuel. -/
theorem ne_outOfFuel_of_toBool {α : Type} {r : Except Fault α} (hr : r.toBool = true) :
    r ≠ .error .outOfFuel := by
  rintro rfl
  cases hr

theorem exec_dispose_released (hr : h.data.Released k) (m : Nat) :
    exec (dispose (m + 1) k) h = (.ok (), h) := by
  simp only [dispose, exec_bind, exec_modifyGetData, Data.takeDisposal_of_released hr]
  rfl

theorem exec_dispose_release {r : Release} (hk : (h.data.takeDisposal k).1 = some r) (m : Nat) :
    exec (dispose (m + 1) k) h = exec (release m r) (h.setData (h.data.takeDisposal k).2) := by
  simp only [dispose, exec_bind, exec_modifyGetData, hk]

end Machine

end FiberEffects
