import FiberEffects.Proofs.Requests

namespace FiberEffects

namespace Answer

-- the answers that programs read travel as values and come back unchanged
@[simp] theorem ofVal_toVal_bool (b : Bool) : (ofVal (toVal b) : Bool) = b := rfl

@[simp] theorem ofVal_toVal_nat (n : Nat) : (ofVal (toVal n) : Nat) = n := rfl

@[simp] theorem ofVal_toVal_time (t : Time) : (ofVal (toVal t) : Time) = t := rfl

@[simp] theorem ofVal_toVal_clock (c : SourceClock) : (ofVal (toVal c) : SourceClock) = c := rfl

@[simp] theorem ofVal_toVal_optionNat (o : Option Nat) : (ofVal (toVal o) : Option Nat) = o := by
  cases o <;> rfl

@[simp] theorem ofVal_toVal_optionTime (o : Option Time) : (ofVal (toVal o) : Option Time) = o := by
  cases o <;> rfl

@[simp] theorem ofVal_toVal_nats (ns : List Nat) : (ofVal (toVal ns) : List Nat) = ns := by
  show ((Val.list (ns.map Val.nat)).toList.map Val.toNat) = ns
  rw [Val.toList, List.map_map]
  exact List.map_id'' (fun _ => rfl) ns

@[simp] theorem ofVal_toVal_vals (vs : List Val) : (ofVal (toVal vs) : List Val) = vs := by
  show (Val.list (vs.map id)).toList.map id = vs
  simp [Val.toList]

end Answer

namespace Prog

variable {σ ω α β γ : Type}

end Prog

namespace Data

variable {d d' : Data} {c : Nat}

theorem guard_of_extends (hf : d'.fibers = d.fibers) (hfu : d'.futures = d.futures)
    (hw : d'.watchers = d.watchers) (hwd : d'.watched = d.watched) {xs : Array DisposableCell}
    (hd : d'.disposables = d.disposables ++ xs) : d.guard d' = d' := by
  have hx : d.disposables ++ d'.disposables.extract d.disposables.size d'.disposables.size =
      d'.disposables := by
    rw [hd]
    simp
  unfold guard
  rw [hx, ← hf, ← hfu, ← hw, ← hwd]

@[simp] theorem guard_setCore (x : CoreCell) : d.guard (d.setCore c x) = d.setCore c x :=
  guard_of_extends rfl rfl rfl rfl Array.append_empty.symm

@[simp] theorem guard_setTimer (t : Time) (task : TimerTask) :
    d.guard (d.setTimer t task).2 = (d.setTimer t task).2 :=
  guard_of_extends rfl rfl rfl rfl Array.push_eq_append

@[simp] theorem guard_newDisposable (r : Option Release) :
    d.guard (d.newDisposable r).2 = (d.newDisposable r).2 :=
  guard_of_extends rfl rfl rfl rfl Array.push_eq_append

def Cancels (d : Data) (k : Nat) : Prop :=
  d.Released k ∨ ∃ th, d.disposables[k]? = some ⟨false, some (.cancelTimer th)⟩

@[simp] theorem cancels_setCore (x : CoreCell) (k : Nat) : (d.setCore c x).Cancels k ↔ d.Cancels k :=
  Iff.rfl

theorem cancels_setTimer (t : Time) (task : TimerTask) :
    (d.setTimer t task).2.Cancels (d.setTimer t task).1 :=
  .inr ⟨(d.timers.register t task).1, by simp [setTimer, newDisposable]⟩

/-- A new disposable leaves what the others do on disposal as it was. -/
theorem cancels_newDisposable {k : Nat} (r : Option Release) (hk : d.Cancels k) :
    (d.newDisposable r).2.Cancels k := by
  have hlt : ∀ x, d.disposables[k]? = some x → (d.newDisposable r).2.disposables[k]? = some x :=
    fun x hx => by
      obtain ⟨hlt, -⟩ := Array.getElem?_eq_some_iff.1 hx
      simp [newDisposable, Array.getElem?_push, Nat.ne_of_lt hlt, hx]
  rcases hk with hr | ⟨th, hcell⟩
  · exact .inl (hlt _ hr)
  · exact .inr ⟨th, hlt _ hcell⟩

@[simp] theorem core_setTimer (t : Time) (task : TimerTask) : (d.setTimer t task).2.core c = d.core c :=
  rfl

@[simp] theorem cores_setTimer (t : Time) (task : TimerTask) : (d.setTimer t task).2.cores = d.cores :=
  rfl

@[simp] theorem core_newDisposable (r : Option Release) : (d.newDisposable r).2.core c = d.core c :=
  rfl

@[simp] theorem cores_newDisposable (r : Option Release) : (d.newDisposable r).2.cores = d.cores :=
  rfl

theorem cores_cancelTimer_takeDisposal (k : Nat) (th : TimerHandle) :
    ((d.takeDisposal k).2.cancelTimer th).cores = d.cores := by
  obtain ⟨ds, hds⟩ := takeDisposal_frame (d := d) k
  rw [hds]
  rfl

end Data

namespace Heap

/-- What a program's requests keep: a kept callback stays kept under its number, and a
disposable stays as it was or is marked released. -/
structure Follows (h h' : Heap) : Prop where
  fns : ∀ (t : Nat) g, h.fns[t]? = some g → h'.fns[t]? = some g
  disposables : ∀ (k : Nat) x, h.data.disposables[k]? = some x →
    h'.data.disposables[k]? = some x ∨ h'.data.Released k

variable {h h' h'' : Heap}

@[refl] theorem Follows.refl (h : Heap) : h.Follows h :=
  ⟨fun _ _ hg => hg, fun _ _ hx => .inl hx⟩

theorem Follows.trans (h₁ : h.Follows h') (h₂ : h'.Follows h'') : h.Follows h'' := by
  refine ⟨fun t g hg => h₂.fns t g (h₁.fns t g hg), fun k x hx => ?_⟩
  rcases h₁.disposables k x hx with hx' | hr
  · exact h₂.disposables k x hx'
  · -- a released disposable stays released
    exact .inr ((h₂.disposables k _ hr).elim id id)

theorem follows_guard (d : Data) : h.Follows (h.setData (h.data.guard d)) := by
  refine ⟨fun _ _ hg => hg, fun k x hx => .inl ?_⟩
  show (h.data.disposables ++ _)[k]? = some x
  rw [Array.getElem?_append_left (Array.getElem?_eq_some_iff.1 hx).1]
  exact hx

theorem follows_takeDisposal (k : Nat) : h.Follows (h.setData (h.data.takeDisposal k).2) := by
  refine ⟨fun _ _ hg => hg, fun j x hx => ?_⟩
  show (h.data.takeDisposal k).2.disposables[j]? = some x ∨ (h.data.takeDisposal k).2.Released j
  unfold Data.takeDisposal
  split
  · by_cases hjk : j = k
    · subst hjk
      exact .inr (by simp [Data.Released, Array.set!, (Array.getElem?_eq_some_iff.1 hx).1])
    · exact .inl (by simp [Array.set!, Ne.symm hjk, hx])
  · exact .inl hx

theorem follows_of_disposables {d : Data} (hd : d.disposables = h.data.disposables) :
    h.Follows (h.setData d) :=
  ⟨fun _ _ hg => hg, fun k x hx => .inl (by rw [data_setData, hd]; exact hx)⟩

def Inert (h : Heap) (t : Nat) : Prop := ∃ g, h.fns[t]? = some g ∧ ∀ v, g v = pure .unit

theorem Follows.inert {t : Nat} (hf : h.Follows h') (ht : h.Inert t) : h'.Inert t :=
  let ⟨g, hg, hv⟩ := ht
  ⟨g, hf.fns t g hg, hv⟩

end Heap

namespace Machine

variable {h : Heap}

/-- Calling a kept function that gives `w` at once gives `w` and leaves the heap as it was. -/
theorem exec_runCmd_call_returns {α : Type} {t : Nat} {g : Val → Cmd Val} (hg : h.fns[t]? = some g)
    {v w : Val} (hw : g v = pure w) (q : Val → Cmd α) (n : Nat) :
    exec (runCmd (n + 3) (Prog.call (.call t v) q)) h = exec (runCmd (n + 2) (q w)) h := by
  rw [runCmd, exec_bind, perform]
  simp only [exec_bind, exec_get]
  rw [hg]
  dsimp only
  rw [hw, exec_runCmd_pure]

end Machine

namespace Cmd

open Machine

def Contract {α : Type} (p : Cmd α) (pre : Heap → Prop) (post : α → Heap → Prop) : Prop :=
  ∀ (β : Type) (k : α → Cmd β) (n : Nat) (h : Heap), pre h →
    (exec (runCmd n (p >>= k)) h).1 ≠ .error .outOfFuel →
    ∃ v n' h', post v h' ∧ h.Follows h' ∧ exec (runCmd n (p >>= k)) h = exec (runCmd n' (k v)) h'

variable {α β : Type} {p : Cmd α} {pre : Heap → Prop} {post : α → Heap → Prop}

theorem Contract.bind {mid : α → Heap → Prop} {q : α → Cmd β} {post : β → Heap → Prop}
    (hp : Contract p pre mid) (hq : ∀ v, Contract (q v) (mid v) post) :
    Contract (p >>= q) pre post := by
  intro γ k n h hpre hfuel
  rw [Prog.bind_assoc] at hfuel ⊢
  obtain ⟨v, n₁, h₁, hmid, hf₁, heq⟩ := hp _ (fun v => q v >>= k) n h hpre hfuel
  rw [heq] at hfuel ⊢
  obtain ⟨w, n₂, h₂, hpost, hf₂, heq₂⟩ := hq v _ k n₁ h₁ hmid hfuel
  exact ⟨w, n₂, h₂, hpost, hf₁.trans hf₂, heq₂⟩

theorem Contract.mono {pre' : Heap → Prop} {post' : α → Heap → Prop} (hp : Contract p pre post)
    (hpre : ∀ h, pre' h → pre h) (hpost : ∀ v h, post v h → post' v h) : Contract p pre' post' := by
  intro γ k n h hpre' hfuel
  obtain ⟨v, n', h', hv, hf, heq⟩ := hp _ k n h (hpre h hpre') hfuel
  exact ⟨v, n', h', hpost v h' hv, hf, heq⟩

theorem Contract.assume (P : Prop) (hP : ∀ h, pre h → P) (hp : P → Contract p pre post) :
    Contract p pre post :=
  fun β k n h hpre => hp (hP h hpre) β k n h hpre

theorem Contract.ghost {ι : Type} (g : Heap → ι) (hp : ∀ i, Contract p (fun h => pre h ∧ g h = i) post) :
    Contract p pre post :=
  fun β k n h hpre => hp (g h) β k n h ⟨hpre, rfl⟩

theorem Contract.frame (F : Heap → Prop) (hF : ∀ h h', F h → h.Follows h' → F h')
    (hp : Contract p pre post) : Contract p (fun h => pre h ∧ F h) (fun v h => post v h ∧ F h) := by
  intro γ k n h hpre hfuel
  obtain ⟨v, n', h', hv, hf, heq⟩ := hp _ k n h hpre.1 hfuel
  exact ⟨v, n', h', ⟨hv, hF h h' hpre.2 hf⟩, hf, heq⟩

theorem contract_pure (a : α) (hpost : ∀ h, pre h → post a h) : Contract (pure a) pre post :=
  fun _ _ n h hpre _ => ⟨a, n, h, hpost h hpre, .refl h, rfl⟩

theorem Contract.pure_bind {q : α → Cmd β} {post : β → Heap → Prop} {a : α}
    (hq : Contract (q a) pre post) : Contract (pure a >>= q) pre post :=
  hq

theorem Contract.map {post : β → Heap → Prop} (f : α → β) (hp : Contract p pre fun v h => post (f v) h) :
    Contract (f <$> p) pre post :=
  show Contract (p >>= fun v => pure (f v)) pre post from
    hp.bind fun v => contract_pure (f v) fun _ hh => hh

theorem contract_modify [Answer α] (f : Data → α × Data)
    (hpost : ∀ h, pre h →
      post (Answer.ofVal (Answer.toVal (f h.data).1)) (h.setData (h.data.guard (f h.data).2))) :
    Contract (modify f) pre post := by
  intro γ k n h hpre hfuel
  rw [modify_bind] at hfuel ⊢
  obtain ⟨m, rfl⟩ := fuel_of_call hfuel
  exact ⟨_, m + 1, _, hpost h hpre, Heap.follows_guard _, exec_runCmd_data _ _ m⟩

/-- A read hands on the value it sees and leaves the heap as it was. -/
theorem Contract.read_bind [Answer α] {q : α → Cmd β} {post : β → Heap → Prop} (f : Data → α)
    (hf : ∀ a : α, Answer.ofVal (Answer.toVal a) = a)
    (hq : ∀ a, Contract (q a) (fun h => pre h ∧ f h.data = a) post) :
    Contract (read f >>= q) pre post := by
  intro γ k n h hpre hfuel
  rw [Prog.bind_assoc, read, modify_bind] at hfuel ⊢
  obtain ⟨m, rfl⟩ := fuel_of_call hfuel
  rw [exec_runCmd_data] at hfuel ⊢
  -- the answer is the value read, and the guard keeps the heap as it was
  have hh : h.setData (h.data.guard h.data) = h := by rw [Data.guard_self]; rfl
  simp only [hf, hh] at hfuel ⊢
  exact hq (f h.data) _ k (m + 1) h ⟨hpre, rfl⟩ hfuel

/-- Calling a kept function that gives `w` at once gives `w` and changes nothing. -/
theorem contract_call_returns (t : Nat) (v w : Val)
    (hret : ∀ h, pre h → ∃ g, h.fns[t]? = some g ∧ g v = pure w) :
    Contract (call t v) pre fun r h => r = w ∧ pre h := by
  intro γ q n h hpre hfuel
  have hbind : (call t v >>= q) = Prog.call (.call t v) q := rfl
  rw [hbind] at hfuel ⊢
  obtain ⟨m, rfl⟩ := fuel_of_call hfuel
  obtain ⟨g, hg, hgv⟩ := hret h hpre
  rcases m with _ | m
  · -- the kept function needs a unit of fuel to return
    rw [runCmd, exec_bind, perform] at hfuel
    simp only [exec_bind, exec_get] at hfuel
    rw [hg] at hfuel
    dsimp only at hfuel
    rw [hgv, runCmd] at hfuel
    exact absurd rfl hfuel
  · exact ⟨w, m + 2, h, ⟨rfl, hpre⟩, .refl h, exec_runCmd_call_returns hg hgv q m⟩

/-- Calling a callback that returns at once changes nothing. -/
theorem contract_call_inert (t : Nat) (v : Val) (ht : ∀ h, pre h → h.Inert t) :
    Contract (discard (call t v)) pre fun _ => pre := by
  have hret : ∀ h, pre h → ∃ g, h.fns[t]? = some g ∧ g v = pure .unit := fun h hh => by
    obtain ⟨g, hg, hv⟩ := ht h hh
    exact ⟨g, hg, hv v⟩
  show Contract ((fun _ => PUnit.unit) <$> call t v) pre fun _ => pre
  exact Contract.map _ ((contract_call_returns t v .unit hret).mono (fun _ hh => hh) fun _ _ hh => hh.2)

/-- Disposing a handle that only cancels a host timer leaves every scheduler core as it was. -/
theorem contract_dispose (R : Array CoreCell → Prop) (k : Nat) :
    Contract (dispose k) (fun h => h.data.Cancels k ∧ R h.data.cores) (fun _ h => R h.data.cores) := by
  rintro β q n h ⟨hk, hR⟩ hfuel
  rw [dispose_bind] at hfuel ⊢
  obtain ⟨m, rfl⟩ := fuel_of_call hfuel
  rw [exec_runCmd_dispose] at hfuel ⊢
  rcases m with _ | m
  · rw [exec_bind, Machine.dispose] at hfuel
    exact absurd rfl hfuel
  rcases hk with hr | ⟨th, hcell⟩
  · rw [exec_bind, exec_dispose_released hr m]
    exact ⟨(), m + 2, h, hR, .refl h, rfl⟩
  · -- the disposal cancels the host timer, which touches no scheduler core
    have htake : (h.data.takeDisposal k).1 = some (.cancelTimer th) := by
      simp [Data.takeDisposal, hcell]
    rw [exec_bind, exec_dispose_release htake m] at hfuel ⊢
    rcases m with _ | m
    · rw [release] at hfuel
      exact absurd rfl hfuel
    rw [release, exec_modifyData]
    refine ⟨(), m + 3, _, ?_, ?_, rfl⟩
    · simpa [Data.cores_cancelTimer_takeDisposal] using hR
    · exact (Heap.follows_takeDisposal k).trans (Heap.follows_of_disposables rfl)

theorem Contract.exec {h : Heap} {n : Nat} (hp : Contract p pre post) (hpre : pre h)
    (hfuel : (Machine.exec (runCmd n p) h).1 ≠ .error .outOfFuel) :
    ∃ v, (Machine.exec (runCmd n p) h).1 = .ok v ∧ post v (Machine.exec (runCmd n p) h).2 := by
  rw [← Prog.bind_pure p] at hfuel ⊢
  obtain ⟨v, n', h', hpost, -, heq⟩ := hp _ Prog.done n h hpre hfuel
  rw [heq] at hfuel ⊢
  rcases n' with _ | n'
  · rw [runCmd] at hfuel
    exact absurd rfl hfuel
  · rw [runCmd]
    exact ⟨v, rfl, hpost⟩

end Cmd

end FiberEffects
