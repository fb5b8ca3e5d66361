import FiberEffects.Proofs.LoopContracts

open Std.Do

set_option mvcgen.warning false

namespace FiberEffects

namespace Machine

variable {n f : Nat}

/-- The loop of a fiber that runs or is done already does nothing. -/
theorem runLoop_of_busy (w : Set Nat) (P : Nat → Option Pause) :
    ⦃fun h => ⌜Steady w P h ∧ ((h.book f).running = true ∨ (h.book f).exit.isSome)⌝⦄ runLoop n f
    ⦃post⟨fun _ h => ⌜Steady w P h⌝, fun e h => ⌜e.Leaves (Steady w P) h⌝⟩⦄ := by
  cases n with
  | zero => rw [runLoop]; mvcgen
  | succ n =>
    rw [runLoop]
    mvcgen with
    | vc1 h hpre _ => exact hpre.1
    | vc2 h hpre hidle => exact absurd (by rcases hpre.2 with h | h <;> simp [h]) hidle

/-- The loop of a fiber that does not exist does nothing. -/
theorem runLoop_of_le (w : Set Nat) (P : Nat → Option Pause) :
    ⦃fun h => ⌜Steady w P h ∧ h.data.fibers.size ≤ f⌝⦄ runLoop n f
    ⦃post⟨fun _ h => ⌜Steady w P h⌝, fun e h => ⌜e.Leaves (Steady w P) h⌝⟩⦄ := by
  match n with
  | 0 => rw [runLoop]; mvcgen
  | 1 =>
    rw [runLoop, turns]
    mvcgen with
    | vc1 h hpre _ => exact hpre.1
  | n + 2 =>
    rw [runLoop, turns]
    mvcgen with
    | vc1 h hpre _ => exact hpre.1
    | vc2 h hpre _ _ =>
      obtain ⟨hs, hf⟩ := hpre
      rw [Heap.updateBook_of_le _ hf, Heap.updateCode_of_le _ (hs.inv.sizes ▸ hf),
        Heap.updateBook_of_le _ hf]
      exact hs
    | vc3 h hpre _ _ hi =>
      -- a fiber without code has no instruction
      obtain ⟨hs, hf⟩ := hpre
      rw [Heap.updateBook_of_le _ hf, Heap.codeOf_of_le (hs.inv.sizes ▸ hf)] at hi
      cases hi

theorem runCmd_succ {α : Type} (p : Cmd α) (hperf : ∀ r, Keeps (perform n r))
    (hrun : ∀ q : Cmd α, Keeps (runCmd n q)) : Keeps (runCmd (n + 1) p) := by
  intro w P
  have hp := fun r => hperf r w P
  have hr := fun q => hrun q w P
  cases p with
  | done a => rw [runCmd]; mvcgen
  | panic m => rw [runCmd]; mvcgen
  | call r k => rw [runCmd]; mvcgen [hp, hr]

theorem dispose_succ (k : Nat) (hrel : ∀ r, Keeps (release n r)) : Keeps (dispose (n + 1) k) := by
  intro w P
  have hr := fun r => hrel r w P
  rw [dispose]
  mvcgen [hr] with
  | vc1 h hs _ | vc2 h hs _ _ => exact hs.setData (Data.tame_takeDisposal k)

theorem disposeAll_succ (ks : List Nat) (hdisp : ∀ k, Keeps (dispose n k))
    (hall : ∀ ks, Keeps (disposeAll n ks)) : Keeps (disposeAll (n + 1) ks) := by
  intro w P
  have hd := fun k => hdisp k w P
  have ha := fun ks => hall ks w P
  cases ks with
  | nil => rw [disposeAll]; mvcgen
  | cons k ks => rw [disposeAll]; mvcgen [hd, ha]

theorem callAll_succ (ks : List Nat) (v : Val) (hperf : ∀ r, Keeps (perform n r))
    (hall : ∀ ks v, Keeps (callAll n ks v)) : Keeps (callAll (n + 1) ks v) := by
  intro w P
  have hp := fun r => hperf r w P
  have ha := fun ks v => hall ks v w P
  cases ks with
  | nil => rw [callAll]; mvcgen
  | cons k ks => rw [callAll, discard_eq]; mvcgen [hp, ha]

theorem release_succ (r : Release) (hperf : ∀ r, Keeps (perform n r))
    (hdisp : ∀ k, Keeps (dispose n k)) (hall : ∀ ks, Keeps (disposeAll n ks)) :
    Keeps (release (n + 1) r) := by
  intro w P
  have hp := fun r => hperf r w P
  have hd := fun k => hdisp k w P
  have ha := fun ks => hall ks w P
  cases r with
  | callback fn => rw [release, discard_eq]; mvcgen [hp]
  | unwatch k =>
    rw [release]
    mvcgen with
    | vc1 h hs => exact hs.setData (Data.tame_unwatch k)
  | detach g key =>
    rw [release]
    mvcgen with
    | vc1 h hs => exact hs.setData (Data.tame_groupDetach g key)
  | unobserve g key =>
    rw [release]
    mvcgen with
    | vc1 h hs => exact hs.setData (Data.tame_removeObserver g key)
  | cancelTimer t =>
    rw [release]
    mvcgen with
    | vc1 h hs => exact hs.setData (Data.tame_cancelTimer t)
  | removeTask c key =>
    rw [release]
    mvcgen [hd] with
    | vc1 h hs _ _ | vc2 h hs _ => exact hs.setData (Data.tame_removeTask c key)
  | disposeGroup g =>
    rw [release]
    mvcgen [ha] with
    | vc1 h hs => exact hs.setData (Data.tame_groupTake g)
  | dropFinalizer res key =>
    rw [release]
    mvcgen with
    | vc1 h hs => exact hs.setData (Data.tame_dropFinalizer res key)

theorem completeFuture_succ (k : Nat) (e : Effect) (hnotify : ∀ ws e, Keeps (notify n ws e)) :
    Keeps (completeFuture (n + 1) k e) := by
  intro w P
  have hn := fun ws e => hnotify ws e w P
  rw [completeFuture]
  mvcgen [hn] with
  | vc1 h hs _ => exact hs.setData (Data.tame_resolveFuture k)
  | vc2 h hs _ _ t => exact (hs.setData (Data.tame_resolveFuture k)).of_data_code rfl rfl

theorem notify_succ (ws : List Nat) (e : Effect) (hperf : ∀ r, Keeps (perform n r))
    (hresume : ∀ f e, Keeps (resume n f e)) (hnotify : ∀ ws e, Keeps (notify n ws e)) :
    Keeps (notify (n + 1) ws e) := by
  intro w P
  have hp := fun r => hperf r w P
  have hr := fun f e => hresume f e w P
  have hn := fun ws e => hnotify ws e w P
  cases ws with
  | nil => rw [notify]; mvcgen
  | cons k ws =>
    rw [notify]
    simp only [discard_eq]
    mvcgen [hp, hr, hn]
    all_goals exact (‹Steady w P _›).setData (Data.tame_takeWatcher k)

def Runs (n f : Nat) : Prop :=
  ∀ w P, f ∉ w → ⦃fun h => ⌜Steady (insert f w) P h ∧ (h.codeOf f).instr.isSome⌝⦄ runLoop n f
    ⦃post⟨fun _ h => ⌜Steady w P h⌝, fun e h => ⌜e.Leaves (Steady w P) h⌝⟩⦄

theorem resume_succ (e : Effect) (hruns : Runs n f) : Keeps (resume (n + 1) f e) := by
  intro w P
  refine triple_of_ghost (fun h => h.book f) fun b₀ => ?_
  rw [resume]
  cases hsus : b₀.suspension with
  | none =>
    mvcgen with
    | vc1 h hpre _ => exact hpre.1
    | vc2 h hpre _ hs =>
      rw [hpre.2, hsus] at hs
      cases hs
  | some s =>
    cases hr : b₀.running with
    | false =>
      by_cases hfw : f ∈ w
      · -- a suspended fiber is in no window
        refine fun h hpre => absurd ((hpre.1.fits f).window.2 hfw) ?_
        simp [FiberBook.inWindow, hpre.2, hsus]
      have hQ := TameStable.core (w := insert f w) (P := P) (f := f)
        fun b _ => b.exit = none ∧ b.suspension = none ∧ b.unwinding = false
      have hd := fun k => dispose_quiet (n := n) (hQ.and_inert s.link) k
      have hl := hruns w P hfw
      mvcgen [hd, hl] with
      | vc1 h hpre hs => rw [hpre.2, hsus] at hs; cases hs
      | vc2 h hpre s' hs' =>
        obtain ⟨hs, hb⟩ := hpre
        obtain rfl : s' = s := by rw [hb, hsus] at hs'; exact (Option.some.inj hs').symm
        have hok := (hs.fits f).ok
        have hf := Heap.lt_of_started (hok.started_of_suspended hs')
        obtain ⟨hsub, hlink⟩ := hs.inv.inert f s' hs'
        refine ⟨⟨⟨hs.leave hs' (hb ▸ hr), ?_⟩, hlink⟩, hsub⟩
        simp only [Heap.book_updateBook_same, hf, if_true]
        exact ⟨hok.exit_of_suspended hs', rfl, hok.unwinding_of_suspended hs'⟩
      | vc3 h₀ hpre s' hs' _ h hpost =>
        obtain rfl : s' = s := by rw [hpre.2, hsus] at hs'; exact (Option.some.inj hs').symm
        exact ⟨hpost, hpost.2⟩
      | vc4 h₀ _ _ _ _ _ _ _ h hpost =>
        obtain ⟨⟨hs, hx, hsus, hu⟩, -⟩ := hpost
        obtain ⟨hst, hr, -, -⟩ := hs.of_mem_window (Set.mem_insert f w)
        have hf := Heap.lt_of_started hst
        refine ⟨hs.setInstrAt (hs.not_held hr) hst hx hsus
          (fun h => absurd (hu.symm.trans h) Bool.false_ne_true), ?_⟩
        simp [hs.inv.sizes ▸ hf]
      | vc5 | vc6 => exact fun he => he.mono fun _ h => h.elim
    | true =>
      -- suspended inside its own loop: it leaves its future and its loop goes on
      by_cases hPf : P f = none
      swap
      · refine fun h hpre => absurd (hpre.1.not_held_of_suspended (s := s) ?_) hPf
        rw [hpre.2, hsus]
      have hQ := TameStable.core (w := w) (P := P) (f := f)
        fun b _ => b.running = true ∧ b.exit = none ∧ b.suspension = none ∧ b.unwinding = false
      have hd := fun k => dispose_quiet (n := n) (hQ.and_inert s.link) k
      have hl := runLoop_of_busy (n := n) (f := f) w P
      mvcgen [hd, hl] with
      | vc1 h hpre hs => rw [hpre.2, hsus] at hs; cases hs
      | vc2 h hpre s' hs' =>
        obtain ⟨hs, hb⟩ := hpre
        obtain rfl : s' = s := by rw [hb, hsus] at hs'; exact (Option.some.inj hs').symm
        have hok := (hs.fits f).ok
        have hf := Heap.lt_of_started (hok.started_of_suspended hs')
        obtain ⟨hsub, hlink⟩ := hs.inv.inert f s' hs'
        refine ⟨⟨⟨hs.leaveRunning hs' (hb ▸ hr), ?_⟩, hlink⟩, hsub⟩
        simp only [Heap.book_updateBook_same, hf, if_true]
        exact ⟨hb ▸ hr, hok.exit_of_suspended hs', rfl, hok.unwinding_of_suspended hs'⟩
      | vc3 h₀ hpre s' hs' _ h hpost =>
        obtain rfl : s' = s := by rw [hpre.2, hsus] at hs'; exact (Option.some.inj hs').symm
        exact ⟨hpost, hpost.2⟩
      | vc4 h₀ _ _ _ _ _ _ _ h hpost =>
        obtain ⟨⟨hs, hr, hx, hsus, hu⟩, -⟩ := hpost
        exact ⟨hs.setInstrAt hPf (hs.started_of_running hr) hx hsus
          (fun h => absurd (hu.symm.trans h) Bool.false_ne_true), .inl hr⟩
      | vc5 | vc6 => exact fun he => he.mono fun _ h => h.elim

theorem interruptAs_succ (requester : FiberId) (hruns : Runs n f) :
    Keeps (interruptAs (n + 1) f requester) := by
  intro w P
  refine triple_of_ghost (fun h => h.book f) fun b₀ => ?_
  rw [interruptAs]
  cases hsus : b₀.suspension with
  | none =>
    -- nothing to leave: only the request is made
    mvcgen with
    | vc1 h hpre _ => exact hpre.1
    | vc2 h hpre _ _ _ | vc4 h hpre _ _ =>
      exact hpre.1.request fun h => by simp [hpre.2, hsus] at h
    | vc3 h hpre _ _ s hs =>
      rcases Nat.lt_or_ge f h.data.fibers.size with hf | hf
      · simp [hf, hpre.2, hsus] at hs
      · simp [Heap.updateBook_of_le _ hf, hpre.2, hsus] at hs
  | some s =>
    by_cases hfw : f ∈ w
    · -- a suspended fiber is in no window
      refine fun h hpre => absurd ((hpre.1.fits f).window.2 hfw) ?_
      simp [FiberBook.inWindow, hpre.2, hsus]
    have hQ := TameStable.core (w := insert f w) (P := P) (f := f)
      fun b c => b.exit = none ∧ b.suspension = none ∧ c.instr = none
    have hd := fun k => dispose_quiet (n := n) (hQ.and_inert s.link) k
    have hl := hruns w P hfw
    -- the suspension read after the request is the one the fiber had
    have hsame : ∀ (h : Heap) x s', h.book f = b₀ →
        ((h.updateBook f fun b => { b with interruptCause := b.interruptCause.combine x }).book
          f).suspension = some s' → s' = s := by
      intro h x s' hb hs'
      rcases Nat.lt_or_ge f h.data.fibers.size with hf | hf
      · simp [hf, hb, hsus] at hs'
        exact hs'.symm
      · simp [Heap.updateBook_of_le _ hf, hb, hsus] at hs'
        exact hs'.symm
    mvcgen [hd, hl] with
    | vc1 h hpre _ => exact hpre.1
    | vc2 h hpre _ _ hs' =>
      rcases Nat.lt_or_ge f h.data.fibers.size with hf | hf
      · simp [hf, hpre.2, hsus] at hs'
      · simp [Heap.updateBook_of_le _ hf, hpre.2, hsus] at hs'
    | vc3 h hpre _ hcond s' hs' =>
      obtain ⟨hs, hb⟩ := hpre
      obtain rfl := hsame h _ s' hb hs'
      have hok := (hs.fits f).ok
      have hsusf : (h.book f).suspension = some s' := hb ▸ hsus
      have hst := hok.started_of_suspended hsusf
      have hf := Heap.lt_of_started hst
      simp only [Heap.book_updateBook_same, hf, if_true] at hcond
      obtain ⟨hr, -⟩ : (h.book f).running = false ∧ _ := by simpa [hst] using hcond
      obtain ⟨hsub, hlink⟩ := hs.inv.inert f s' hsusf
      rw [Heap.updateBook_updateBook]
      refine ⟨⟨⟨hs.enterWindow hf hr (hok.leave.request fun h => by simp at h) ?_, ?_⟩, hlink⟩, hsub⟩
      · simp [FiberBook.inWindow, FiberBook.atRest, hst, hr, hok.exit_of_suspended hsusf]
      · simp only [Heap.book_updateBook_same, hf, if_true, Heap.codeOf_updateBook]
        exact ⟨hok.exit_of_suspended hsusf, rfl, (hok.waiting (by simp [hsusf]) hr).2⟩
    | vc4 h₀ hpre _ _ s' hs' _ h hpost =>
      obtain rfl := hsame h₀ _ s' hpre.2 hs'
      exact ⟨hpost, hpost.2⟩
    | vc5 h₀ _ _ _ _ _ _ _ _ _ h hpost =>
      obtain ⟨⟨hs, hx, hsus', hc⟩, -⟩ := hpost
      have hu := hs.beginUnwinding (Set.mem_insert f w) hc
      obtain ⟨hst, hr, -, -⟩ := hs.of_mem_window (Set.mem_insert f w)
      have hf := Heap.lt_of_started hst
      have hb : (h.updateBook f fun b => { b with interrupting := true }).book f =
          { h.book f with interrupting := true } := by simp [hf]
      refine ⟨hu.setInstrAt (hu.not_held (by rw [hb]; exact hr)) (by rw [hb]; exact hst)
        (by rw [hb]; exact hx) (by rw [hb]; exact hsus') (fun _ => by simp), ?_⟩
      simp [hf, hs.inv.sizes ▸ hf]
    | vc6 | vc7 => exact fun he => he.mono fun _ h => h.elim
    | vc8 h hpre _ hcond =>
      refine hpre.1.request fun _ hr => ?_
      -- the request is acted on at once exactly when the condition read holds
      have hst := (hpre.1.fits f).ok.started_of_suspended (hpre.2 ▸ hsus)
      have hf := Heap.lt_of_started hst
      simp only [Heap.book_updateBook_same, hf, if_true] at hcond
      simpa [hst, hr] using hcond

theorem start_succ (hruns : Runs n f) : Keeps (start (n + 1) f) := by
  intro w P
  refine triple_of_ghost (fun h => decide (h.data.fibers.size ≤ f)) fun out => ?_
  rw [start]
  cases out with
  | true =>
    -- a fiber that does not exist counts as not started, and its loop does nothing
    have hl := runLoop_of_le (n := n) (f := f) w P
    mvcgen [hl] with
    | vc1 h hpre _ => exact hpre.1
    | vc2 h hpre _ =>
      obtain ⟨hs, hf⟩ := hpre
      have hf : h.data.fibers.size ≤ f := of_decide_eq_true hf
      exact ⟨by rw [Heap.updateBook_of_le _ hf]; exact hs, by simpa using hf⟩
  | false =>
    by_cases hfw : f ∈ w
    · -- a fiber in a window has started
      mvcgen with
      | vc1 h hpre _ => exact hpre.1
      | vc2 h hpre hst => exact absurd (hpre.1.of_mem_window hfw).1 hst
    have hl := hruns w P hfw
    mvcgen [hl] with
    | vc1 h hpre _ => exact hpre.1
    | vc2 h hpre hst =>
      obtain ⟨hs, hf⟩ := hpre
      have hf : f < h.data.fibers.size := Nat.lt_of_not_le (of_decide_eq_false hf)
      have hok := (hs.fits f).ok
      have hst := Bool.eq_false_iff.2 hst
      obtain ⟨hr, hsus, hx⟩ := hok.fresh hst
      refine ⟨hs.enterWindow hf hr (hok.start hst) ?_, by simpa using hs.inv.ready f hf hst⟩
      simp [FiberBook.inWindow, FiberBook.atRest, hr, hx, hsus]

theorem perform_succ (r : Request) (hrun : ∀ {β : Type} (q : Cmd β), Keeps (runCmd n q))
    (hdisp : ∀ k, Keeps (dispose n k)) (hcomp : ∀ k e, Keeps (completeFuture n k e))
    (hstart : ∀ f, Keeps (start n f)) (hint : ∀ f r, Keeps (interruptAs n f r))
    (hperf : ∀ r, Keeps (perform n r)) : Keeps (perform (n + 1) r) := by
  intro w P
  have hp := fun r => hperf r w P
  have hr := fun {β : Type} (q : Cmd β) => hrun q w P
  have hd := fun k => hdisp k w P
  have hc := fun k e => hcomp k e w P
  have hs := fun f => hstart f w P
  have hi := fun f r => hint f r w P
  cases r with
  | data g =>
    rw [perform]
    mvcgen with | vc1 h hs => exact hs.setData (Data.tame_guard _)
  | keepFn g | keepBuilder g | keepEffect g =>
    rw [perform]
    mvcgen with | vc1 h hs _ => exact hs.of_data_code rfl rfl
  | call k arg => rw [perform]; mvcgen [hr]
  | build k arg =>
    rw [perform]
    mvcgen [hr] with
    | vc2 _ _ _ _ _ _ _ hs _ | vc3 _ hs _ _ _ => exact hs.of_data_code rfl rfl
  | dispose k => rw [perform]; mvcgen [hd]
  | newFuture e =>
    rw [perform]
    mvcgen [newFuture] with | vc1 h hs _ => exact hs.pushFuture _ _
  | complete k e => rw [perform]; mvcgen [hc]
  | newFiber e id opts =>
    rw [perform]
    mvcgen [newFiber] with
    | vc1 h hs _ =>
      exact (hs.setData Data.tame_newGroup).pushFiber (FiberOk.new e id opts _) rfl rfl
  | start k => rw [perform]; mvcgen [hs]
  | interrupt k x => rw [perform]; mvcgen [hi]
  | observe k cb =>
    rw [perform]
    mvcgen with | vc1 h hs => exact hs.setData (Data.tame_addObserver k cb)
  | watch k cb =>
    rw [perform]
    mvcgen [hp]
    all_goals exact (‹Steady w P _›).setData (Data.tame_addWatcher k (.callback cb))

def TurnsOk (n f : Nat) : Prop :=
  InLoop (turns n f) f (fun b c => b.running = true ∧ b.Live c)
    (fun _ b c => b.running = true ∧ b.Rests c) (fun b _ => b.running = true)

def ClosesOk (m : Machine Unit) (f : Nat) : Prop :=
  InLoop m f (fun b c => b.Busy c ∧ c.frames = []) (fun _ b c => b.running = true ∧ b.Live c)
    (fun b _ => b.running = true)

/-- Every function of the machine, given fuel `n`, keeps the invariant: the computations
callable from anywhere keep it outright, and the steps of a fiber's loop keep it with the
fiber's own contract. -/
structure Contracts (n : Nat) : Prop where
  runCmd : ∀ {β : Type} (q : Cmd β), Keeps (runCmd n q)
  perform : ∀ r, Keeps (perform n r)
  dispose : ∀ k, Keeps (dispose n k)
  release : ∀ r, Keeps (release n r)
  disposeAll : ∀ ks, Keeps (disposeAll n ks)
  callAll : ∀ ks v, Keeps (callAll n ks v)
  completeFuture : ∀ k e, Keeps (completeFuture n k e)
  notify : ∀ ws e, Keeps (notify n ws e)
  resume : ∀ f e, Keeps (resume n f e)
  interruptAs : ∀ f x, Keeps (interruptAs n f x)
  start : ∀ f, Keeps (start n f)
  runLoop : ∀ f, Runs n f
  turns : ∀ f, TurnsOk n f
  step : ∀ f e, InLoop (step n f e) f (fun b c => b.Stepping c e) Outcome.holds Pause.busy.holds
  continueWith : ∀ f v,
    InLoop (continueWith n f v) f Pause.calm.holds Outcome.holds Pause.busy.holds
  continueWithCause : ∀ f c,
    InLoop (continueWithCause n f c) f Pause.busy.holds Outcome.holds Pause.busy.holds
  done : ∀ f x, ClosesOk (done n f x) f
  complete : ∀ f x, ClosesOk (complete n f x) f

/-- Without fuel everything runs out of it at once, which promises nothing. -/
theorem Contracts.zero : Contracts 0 where
  runCmd _ := by intro w P; rw [Machine.runCmd]; mvcgen
  perform _ := by intro w P; rw [Machine.perform]; mvcgen
  dispose _ := by intro w P; rw [Machine.dispose]; mvcgen
  release _ := by intro w P; rw [Machine.release]; mvcgen
  disposeAll _ := by intro w P; rw [Machine.disposeAll]; mvcgen
  callAll _ _ := by intro w P; rw [Machine.callAll]; mvcgen
  completeFuture _ _ := by intro w P; rw [Machine.completeFuture]; mvcgen
  notify _ _ := by intro w P; rw [Machine.notify]; mvcgen
  resume _ _ := by intro w P; rw [Machine.resume]; mvcgen
  interruptAs _ _ := by intro w P; rw [Machine.interruptAs]; mvcgen
  start _ := by intro w P; rw [Machine.start]; mvcgen
  runLoop _ := by intro w P _; rw [Machine.runLoop]; mvcgen
  turns _ := by intro w P; rw [Machine.turns]; mvcgen
  step _ _ := by intro w P; rw [Machine.step]; mvcgen
  continueWith _ _ := by intro w P; rw [Machine.continueWith]; mvcgen
  continueWithCause _ _ := by intro w P; rw [Machine.continueWithCause]; mvcgen
  done _ _ := by intro w P; rw [Machine.done]; mvcgen
  complete _ _ := by intro w P; rw [Machine.complete]; mvcgen

/-- One more unit of fuel: each function keeps its contract when its callees keep theirs. -/
theorem Contracts.succ (hc : Contracts n) : Contracts (n + 1) where
  runCmd q := runCmd_succ q hc.perform hc.runCmd
  perform r := perform_succ r hc.runCmd hc.dispose hc.completeFuture hc.start hc.interruptAs hc.perform
  dispose k := dispose_succ k hc.release
  release r := release_succ r hc.perform hc.dispose hc.disposeAll
  disposeAll ks := disposeAll_succ ks hc.dispose hc.disposeAll
  callAll ks v := callAll_succ ks v hc.perform hc.callAll
  completeFuture k e := completeFuture_succ k e hc.notify
  notify ws e := notify_succ ws e hc.perform hc.resume hc.notify
  resume f e := resume_succ e (hc.runLoop f)
  interruptAs f x := interruptAs_succ x (hc.runLoop f)
  start f := start_succ (hc.runLoop f)
  runLoop f := runLoop_succ (hc.turns f)
  turns f := turns_succ (hc.step f) (hc.done f) (hc.turns f)
  step f e := step_succ e hc.runCmd (hc.continueWith f) (hc.continueWithCause f)
    (suspendOn_inLoop f)
  continueWith f v := continueWith_succ v hc.runCmd hc.runCmd (hc.continueWith f)
    (hc.continueWithCause f)
  continueWithCause f c := continueWithCause_succ c hc.runCmd hc.runCmd (hc.continueWithCause f)
  done f x := done_succ x (hc.complete f)
  complete _ x := complete_succ x hc.disposeAll hc.callAll

theorem contracts : ∀ n, Contracts n
  | 0 => .zero
  | n + 1 => (contracts n).succ

end Machine

end FiberEffects
