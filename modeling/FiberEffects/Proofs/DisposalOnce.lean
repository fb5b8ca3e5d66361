import FiberEffects.Proofs.FutureResolution

open Std.Do

namespace FiberEffects

namespace Data

variable {d d' : Data} {k : Nat}

/-- An elementary change keeps the disposables, adds one, or disposes one. -/
theorem Change.disposables_cases (hc : d.Change d') :
    d'.disposables = d.disposables ∨ (∃ c, d'.disposables = d.disposables.push c) ∨
      ∃ j, d' = (d.takeDisposal j).2 := by
  cases hc with
  | takeDisposal j => exact .inr (.inr ⟨j, rfl⟩)
  | newDisposable a => exact .inr (.inl ⟨_, rfl⟩)
  | addObserver f cb => exact .inr (.inl ⟨_, rfl⟩)
  | unwatch w => exact .inl (disposables_unwatch w)
  | groupAdd g m =>
    obtain ⟨gs, hgs⟩ := groupAdd_frame (d := d) g m
    exact .inl (by rw [hgs])
  | groupTake g =>
    obtain ⟨gs, hgs⟩ := groupTake_frame (d := d) g
    exact .inl (by rw [hgs])
  | removeTask c key =>
    obtain ⟨cs, hcs⟩ := removeTask_frame (d := d) c key
    exact .inl (by rw [hcs])
  | addWatcher | newGroup | groupDetach | removeObserver | takeObservers | cancelTimer
  | dropFinalizer => exact .inl rfl

theorem Released.change (hr : d.Released k) (hc : d.Change d') : d'.Released k := by
  rcases hc.disposables_cases with hd | ⟨c, hd⟩ | ⟨j, rfl⟩
  · unfold Released
    rw [hd]
    exact hr
  · exact hr.push hd
  · exact hr.takeDisposal j

theorem Change.size_le (hc : d.Change d') : d.disposables.size ≤ d'.disposables.size := by
  rcases hc.disposables_cases with hd | ⟨c, hd⟩ | ⟨j, rfl⟩
  · rw [hd]
  · rw [hd, Array.size_push]
    exact Nat.le_succ _
  · unfold Data.takeDisposal
    split
    · simp [Array.set!]
    · exact le_rfl

theorem disposables_takeWatcher (w : Nat) : (d.takeWatcher w).2.disposables = d.disposables := by
  obtain ⟨ws, hws⟩ := takeWatcher_frame (d := d) w
  rw [hws]

theorem disposables_resolveFuture (j : Nat) : (d.resolveFuture j).2.disposables = d.disposables := by
  unfold resolveFuture
  dsimp only
  split <;> rfl

theorem groupTake_of_disposed {g : Nat} (hg : ∀ c, d.groups[g]? = some c → c.disposed = true) :
    d.groupTake g = ([], d) := by
  unfold groupTake
  cases hc : d.groups[g]? with
  | none => rfl
  | some c => simp [hg c hc]

theorem groupAdd_of_disposed {g m : Nat} (hg : ∀ c, d.groups[g]? = some c → c.disposed = true) :
    d.groupAdd g m = (none, d) := by
  unfold groupAdd
  cases hc : d.groups[g]? with
  | none => rfl
  | some c => simp [hg c hc]

/-- Disposing a live group empties it and marks it disposed, before any member is disposed. -/
theorem groupTake_live {g : Nat} {c : GroupCell} (hc : d.groups[g]? = some c)
    (hd : c.disposed = false) :
    (d.groupTake g).1 = c.members.map Prod.snd ∧
      (d.groupTake g).2.groups[g]? = some { c with members := [], disposed := true } := by
  have hlt : g < d.groups.size := (Array.getElem?_eq_some_iff.1 hc).1
  unfold groupTake
  rw [hc]
  simp [hd, Array.set!, hlt]

theorem groupDetach_of_empty {g key : Nat} (hg : ∀ c, d.groups[g]? = some c → c.members = []) :
    d.groupDetach g key = d := by
  have hgroups : modifyAt d.groups g (fun cell =>
      { cell with members := cell.members.filter (·.1 != key) }) = d.groups :=
    Array.ext_getElem? fun i => by
      rw [modifyAt, Array.getElem?_modify]
      split
      · rename_i hgi
        rw [← hgi]
        cases hc : d.groups[g]? with
        | none => rfl
        | some c =>
          have hm := hg c hc
          cases c
          simp_all
      · rfl
  simp [groupDetach, hgroups]

theorem groupDetach_of_some {g key : Nat} {c : GroupCell} (hc : d.groups[g]? = some c) :
    (d.groupDetach g key).groups[g]? = some { c with members := c.members.filter (·.1 != key) } := by
  simp [groupDetach, modifyAt, Array.getElem?_modify, hc]

end Data

namespace Heap

variable {h h' h'' : Heap} {d : Data}

/-- How the disposables may evolve from `h` to `h'`: none goes away, and each one that released
stays released. -/
structure DisposalsFollow (h h' : Heap) : Prop where
  grows : h.data.disposables.size ≤ h'.data.disposables.size
  released : ∀ k, h.data.Released k → h'.data.Released k

theorem DisposalsFollow.refl (h : Heap) : h.DisposalsFollow h := ⟨le_rfl, fun _ hk => hk⟩

theorem DisposalsFollow.trans (h₁ : h.DisposalsFollow h') (h₂ : h'.DisposalsFollow h'') :
    h.DisposalsFollow h'' :=
  ⟨h₁.grows.trans h₂.grows, fun k hk => h₂.released k (h₁.released k hk)⟩

theorem DisposalsFollow.of_same (hd : h'.data.disposables = h.data.disposables) :
    h.DisposalsFollow h' :=
  ⟨by rw [hd], fun k hk => by unfold Data.Released at hk ⊢; rw [hd]; exact hk⟩

theorem DisposalsFollow.change (hc : h.data.Change d) : h.DisposalsFollow (h.setData d) :=
  ⟨hc.size_le, fun _ hk => hk.change hc⟩

theorem DisposalsFollow.guard (d : Data) : h.DisposalsFollow (h.setData (h.data.guard d)) :=
  ⟨by simp [Data.guard], fun _ hk => hk.guard d⟩

theorem disposalsStable (h₀ : Heap) : Stable (DisposalsFollow h₀) where
  updateBook hf := hf.trans (.of_same rfl)
  updateCode hf := hf.trans (.of_same rfl)
  keep hf hd _ _ := hf.trans (.of_same (by rw [hd]))
  guard d hf := hf.trans (.guard d)
  change hf hc := hf.trans (.change hc)
  pushFiber _ _ hf := hf.trans (.of_same rfl)
  pushFuture _ hf := hf.trans (.of_same rfl)
  spend w hf := hf.trans (.of_same (Data.disposables_takeWatcher w))
  resolve _ hf _ := hf.trans (.of_same (Data.disposables_resolveFuture _))

end Heap

namespace Machine

variable {h : Heap} {k g : Nat}

/-- A disposal that returns leaves the disposable released, if it exists. -/
theorem dispose_releases (m : Nat) (hk : k < h.data.disposables.size)
    (hres : (exec (dispose m k) h).1 = .ok ()) : (exec (dispose m k) h).2.data.Released k := by
  cases m with
  | zero => simp [dispose, exec] at hres
  | succ m =>
    have htaken := Data.released_takeDisposal (k := k) hk
    cases hr : (h.data.takeDisposal k).1 with
    | none =>
      have heq : exec (dispose (m + 1) k) h = (.ok (), h.setData (h.data.takeDisposal k).2) := by
        simp only [dispose, exec_bind, exec_modifyGetData, hr]
        rfl
      rw [heq]
      exact htaken
    | some r =>
      rw [exec_dispose_release hr] at hres ⊢
      -- the release runs from a heap where the disposable has released already
      have hfollow := ((preserving m (Heap.disposalsStable _).forAll).release r).exec (.refl _)
        (by rw [hres]; exact fun he => by cases he)
      exact hfollow.released k htaken

/-- Disposing a list of disposables that returns leaves each one released, if it exists. -/
theorem disposeAll_releases : ∀ (ks : List Nat) (m : Nat) {h : Heap},
    (exec (disposeAll m ks) h).1 = .ok () →
    ∀ k ∈ ks, k < h.data.disposables.size → (exec (disposeAll m ks) h).2.data.Released k
  | [], _, _, _ => fun _ hk => absurd hk List.not_mem_nil
  | _ :: _, 0, _, hres => by simp [disposeAll, exec] at hres
  | k :: ks, m + 1, h, hres => by
    rw [disposeAll, exec_bind] at hres ⊢
    rcases hx : exec (dispose m k) h with ⟨_ | _, h₁⟩ <;> rw [hx] at hres
    · cases hres
    · dsimp only at hres ⊢
      have hok₁ : (exec (dispose m k) h).1 = .ok () := by rw [hx]
      have hf₁ := ((preserving m (Heap.disposalsStable h).forAll).dispose k).exec (.refl h)
        (by rw [hok₁]; exact fun he => by cases he)
      rw [hx] at hf₁
      have hf₂ := ((preserving m (Heap.disposalsStable h₁).forAll).disposeAll ks).exec (.refl h₁)
        (by rw [hres]; exact fun he => by cases he)
      intro k' hk' hlt
      rcases List.mem_cons.1 hk' with rfl | hk'
      · -- the first disposal released it, and the rest keeps it so
        have hrel := dispose_releases m hlt hok₁
        rw [hx] at hrel
        exact hf₂.released k' hrel
      · exact disposeAll_releases ks m hres k' hk' (Nat.lt_of_lt_of_le hlt hf₁.grows)

theorem exec_disposeGroup_disposed (hg : ∀ c, h.data.groups[g]? = some c → c.disposed = true)
    (m : Nat) : exec (release (m + 2) (.disposeGroup g)) h = (.ok (), h) := by
  simp only [release, exec_bind, exec_modifyGetData, Data.groupTake_of_disposed hg, disposeAll]
  rfl

theorem exec_disposeGroup_live {c : GroupCell} (hc : h.data.groups[g]? = some c)
    (hd : c.disposed = false) (m : Nat) :
    exec (release (m + 1) (.disposeGroup g)) h =
      exec (disposeAll m (c.members.map Prod.snd)) (h.setData (h.data.groupTake g).2) := by
  simp only [release, exec_bind, exec_modifyGetData, (Data.groupTake_live hc hd).1]

theorem exec_groupAdd_disposed (hg : ∀ c, h.data.groups[g]? = some c → c.disposed = true)
    (k m : Nat) :
    exec (groupAdd (m + 1) g k) h =
      exec (dispose m k >>= fun _ => modifyGetData (·.newDisposable none)) h := by
  simp only [groupAdd, exec_bind, exec_modifyGetData, Data.groupAdd_of_disposed hg]
  rfl

theorem exec_detach_empty (hg : ∀ c, h.data.groups[g]? = some c → c.members = []) (key m : Nat) :
    exec (release (m + 1) (.detach g key)) h = (.ok (), h) := by
  simp only [release, exec_modifyData, Data.groupDetach_of_empty hg]
  rfl

theorem exec_detach (g key m : Nat) :
    exec (release (m + 1) (.detach g key)) h = (.ok (), h.setData (h.data.groupDetach g key)) := by
  simp only [release, exec_modifyData]

/-- A disposable releases what it holds at most once, and a group disposes each member once. -/
theorem disposal_releases_once {α : Type} {h : Heap} (n : Nat) (q : Cmd α)
    (hfuel : (exec (runCmd n q) h).1 ≠ .error .outOfFuel) :
    let h' := (exec (runCmd n q) h).2
    h.DisposalsFollow h' ∧
      (∀ k m, h'.data.Released k → exec (dispose (m + 1) k) h' = (.ok (), h')) ∧
      (∀ k m r, (h'.data.takeDisposal k).1 = some r →
        (h'.setData (h'.data.takeDisposal k).2).data.Released k ∧
          exec (dispose (m + 1) k) h' = exec (release m r) (h'.setData (h'.data.takeDisposal k).2)) ∧
      (∀ k m, k < h'.data.disposables.size → (exec (dispose m k) h').1 = .ok () →
        (exec (dispose m k) h').2.data.Released k) ∧
      ∀ g c, h'.data.groups[g]? = some c →
        (c.disposed = true → ∀ m k,
          exec (release (m + 2) (.disposeGroup g)) h' = (.ok (), h') ∧
            exec (groupAdd (m + 1) g k) h' =
              exec (dispose m k >>= fun _ => modifyGetData (·.newDisposable none)) h') ∧
        (c.members = [] → ∀ m key, exec (release (m + 1) (.detach g key)) h' = (.ok (), h')) ∧
        (∀ m key, exec (release (m + 1) (.detach g key)) h' =
            (.ok (), h'.setData (h'.data.groupDetach g key)) ∧
          (h'.data.groupDetach g key).disposables = h'.data.disposables ∧
          (h'.data.groupDetach g key).groups[g]? =
            some { c with members := c.members.filter (·.1 != key) }) ∧
        (c.disposed = false → ∀ m,
          (h'.data.groupTake g).2.groups[g]? = some { c with members := [], disposed := true } ∧
            exec (release (m + 1) (.disposeGroup g)) h' =
              exec (disposeAll m (c.members.map Prod.snd)) (h'.setData (h'.data.groupTake g).2) ∧
            ((exec (release (m + 1) (.disposeGroup g)) h').1 = .ok () →
              ∀ k ∈ c.members.map Prod.snd, k < h'.data.disposables.size →
                (exec (release (m + 1) (.disposeGroup g)) h').2.data.Released k) ∧
            ∀ key, exec (release (m + 1) (.disposeGroup g)) (h'.setData (h'.data.groupDetach g key)) =
              exec (disposeAll m ((c.members.filter (·.1 != key)).map Prod.snd))
                ((h'.setData (h'.data.groupDetach g key)).setData ((h'.data.groupDetach g key).groupTake g).2)) := by
  intro h'
  have hf : h.DisposalsFollow h' :=
    exec_runCmd_preserves (Heap.disposalsStable h).forAll n q (.refl h) hfuel
  refine ⟨hf, fun k m hr => exec_dispose_released hr m,
    fun k m r hk => ⟨Data.released_of_takeDisposal hk, exec_dispose_release hk m⟩,
    fun k m hk hres => dispose_releases m hk hres, fun g c hc => ⟨fun hd m k => ?_, fun hm m key => ?_,
    fun m key => ⟨exec_detach g key m, rfl, Data.groupDetach_of_some hc⟩, fun hd m => ?_⟩⟩
  · have hg : ∀ c', h'.data.groups[g]? = some c' → c'.disposed = true := fun c' hc' => by
      rw [hc] at hc'
      cases hc'
      exact hd
    exact ⟨exec_disposeGroup_disposed hg m, exec_groupAdd_disposed hg k m⟩
  · refine exec_detach_empty (fun c' hc' => ?_) key m
    rw [hc] at hc'
    cases hc'
    exact hm
  · refine ⟨(Data.groupTake_live hc hd).2, exec_disposeGroup_live hc hd m, fun hres k hk hlt => ?_,
      fun key => exec_disposeGroup_live (h := h'.setData (h'.data.groupDetach g key))
        (Data.groupDetach_of_some hc) (c := { c with members := c.members.filter (·.1 != key) }) hd m⟩
    rw [exec_disposeGroup_live hc hd m] at hres ⊢
    -- taking the members removes no disposable
    have hsize := (Data.Change.groupTake h'.data g).size_le
    exact disposeAll_releases _ m hres k hk (Nat.lt_of_lt_of_le hlt hsize)

def disposeTwice : Cmd Unit := do
  let k ← Cmd.disposableOf (pure ())
  Cmd.dispose k
  Cmd.dispose k

theorem disposeTwice_released :
    (exec (runCmd 40 disposeTwice) default).1 ≠ .error .outOfFuel ∧
      (default : Heap).DisposalsFollow (exec (runCmd 40 disposeTwice) default).2 := by
  have hok : (exec (runCmd 40 disposeTwice) default).1.toBool = true := by
    decide +kernel
  have hfuel : (exec (runCmd 40 disposeTwice) default).1 ≠ .error .outOfFuel :=
    Machine.ne_outOfFuel_of_toBool hok
  exact ⟨hfuel, (disposal_releases_once 40 disposeTwice hfuel).1⟩

end Machine

end FiberEffects
