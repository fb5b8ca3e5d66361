import FiberEffects.Proofs.Contracts
import FiberEffects.Proofs.Subscriptions

open Std.Do

set_option mvcgen.warning false

namespace FiberEffects

namespace FiberBook

def Looping (b : FiberBook) (c : FiberCode) : Prop :=
  b.started = true ∧ b.running = true ∧ (c.instr.isSome → b.suspension = none)

def Enterable (b : FiberBook) : Prop :=
  b.running = true ∨ b.exit.isSome ∨ (b.started = true ∧ b.suspension = none)

theorem InTurn.looping {b : FiberBook} {c : FiberCode} (ht : b.InTurn c) (c' : FiberCode) :
    b.Looping c' :=
  ⟨ht.1, ht.2.1, fun _ => ht.2.2.1⟩

end FiberBook

def Outcome.inTurn : Outcome → FiberBook → FiberCode → Prop
  | .suspend, b, c => b.started = true ∧ b.running = true ∧ c.instr = none
  | _, b, c => b.InTurn c

namespace Heap

variable {h : Heap} {R D : Set Nat} {f : Nat}

def Turning (h : Heap) (R D : Set Nat) (f : Nat) : Prop :=
  h.Settled none R D ∧ (h.book f).InTurn (h.codeOf f)

theorem Turning.updateBook {F : FiberBook → FiberBook} (ht : h.Turning R D f)
    (hF : (F (h.book f)).started = (h.book f).started ∧
      (F (h.book f)).running = (h.book f).running ∧
      (F (h.book f)).suspension = (h.book f).suspension) :
    (h.updateBook f F).Turning R D f := by
  obtain ⟨hs, hturn⟩ := ht
  have hf := lt_of_started hturn.1
  obtain ⟨hst, hrun, hsus⟩ := hF
  refine ⟨hs.updateBook hsus (fun _ => hst.trans hturn.1) fun _ => hrun.trans hturn.2.1, ?_⟩
  rw [book_updateBook_self F hf, codeOf_updateBook]
  exact ⟨hst.trans hturn.1, hrun.trans hturn.2.1, hsus.trans hturn.2.2.1, hturn.2.2.2⟩

/-- A change of the turning fiber's code that keeps its instruction keeps the turn. -/
theorem Turning.updateCode {G : FiberCode → FiberCode} (ht : h.Turning R D f)
    (hG : (G (h.codeOf f)).instr = (h.codeOf f).instr) : (h.updateCode f G).Turning R D f := by
  obtain ⟨hs, hturn⟩ := ht
  refine ⟨hs.updateCode fun _ => hG.trans hturn.2.2.2, ?_⟩
  rw [book_updateCode, codeOf_updateCode_same]
  split
  · exact ⟨hturn.1, hturn.2.1, hturn.2.2.1, hG.trans hturn.2.2.2⟩
  · exact hturn

theorem Settled.leaving {s : Suspension} (hs : h.Settled none R D)
    (hsus : (h.book f).suspension = some s) :
    let h' := h.updateBook f fun b => { b with suspension := none }
    (h'.Kept R D ∧ ((h'.book f).started = true ∧ (h'.book f).suspension = none) ∧
      h'.data.inert s.link = true) ∧ h'.data.inert s.subscription = true ∧
      h'.TiedBy h'.subscriptions (h'.data.takeDisposal s.subscription).1 := by
  intro h'
  have hst := hs.toKept.started_of_suspended hsus
  have hf := lt_of_started hst
  have hleave := hs.leave hsus
  obtain ⟨hsub, hlink⟩ := hs.inert f s hsus
  refine ⟨⟨hleave.toKept, ⟨by simp [h', hf, hst], by simp [h', hf]⟩, hlink⟩, hsub, ?_⟩
  rw [takeDisposal_updateBook]
  exact hleave.tied

theorem Turning.hold (ht : h.Turning R D f) : h.Settled none (insert f R) D := ht.1.hold ht.2

theorem Turning.takeInstr (hs : h.Settled none R D) (hfR : f ∉ R)
    (hl : (h.book f).Looping (h.codeOf f)) (hi : (h.codeOf f).instr.isSome) :
    (h.updateCode f fun c => { c with instr := none }).Turning R D f := by
  have hfc : f < h.code.size := hs.sizes ▸ lt_of_started hl.1
  refine ⟨hs.updateCode fun h => absurd h hfR, ?_⟩
  rw [book_updateCode, codeOf_updateCode_self _ hfc]
  exact ⟨hl.1, hl.2.1, hl.2.2 hi, rfl⟩

theorem Turning.setInstr (ht : h.Turning R D f) (hfR : f ∉ R) (e : Effect) :
    (h.updateCode f fun c => { c with instr := some e }).Settled none R D ∧
      ((h.updateCode f fun c => { c with instr := some e }).book f).Looping
        ((h.updateCode f fun c => { c with instr := some e }).codeOf f) := by
  refine ⟨ht.1.updateCode fun h => absurd h hfR, ?_⟩
  rw [book_updateCode]
  exact ht.2.looping _

end Heap

def InLoopTied {α : Type} (m : Machine α) (f : Nat) (pre : FiberBook → FiberCode → Prop)
    (post : α → FiberBook → FiberCode → Prop) (fault : FiberBook → FiberCode → Prop) : Prop :=
  ∀ R D, f ∉ R → ⦃fun h => ⌜h.Settled none R D ∧ pre (h.book f) (h.codeOf f)⌝⦄ m
    ⦃post⟨fun a h => ⌜h.Settled none R D ∧ post a (h.book f) (h.codeOf f)⌝,
      fun e h => ⌜e.Leaves (fun h => h.Settled none R D ∧ fault (h.book f) (h.codeOf f)) h⌝⟩⦄

namespace Machine

def KeepsTies {α : Type} (m : Machine α) : Prop :=
  ∀ R D, ⦃fun h => ⌜h.Settled none R D⌝⦄ m
    ⦃post⟨fun _ h => ⌜h.Settled none R D⌝, fun e h => ⌜e.Leaves (·.Settled none R D) h⌝⟩⦄

def DisposesTied (n k : Nat) : Prop :=
  ∀ R D, ⦃fun h => ⌜h.Settled (h.data.takeDisposal k).1 R D⌝⦄ dispose n k
    ⦃post⟨fun _ h => ⌜h.Settled none R D⌝, fun e h => ⌜e.Leaves (·.Settled none R D) h⌝⟩⦄

def ReleasesTied (n : Nat) (r : Release) : Prop :=
  ∀ R D, ⦃fun h => ⌜h.Settled (some r) R D⌝⦄ release n r
    ⦃post⟨fun _ h => ⌜h.Settled none R D⌝, fun e h => ⌜e.Leaves (·.Settled none R D) h⌝⟩⦄

def RunsTied (n f : Nat) : Prop :=
  ∀ R D, ⦃fun h => ⌜h.Settled none R D ∧ (h.book f).Enterable⌝⦄ runLoop n f
    ⦃post⟨fun _ h => ⌜h.Settled none R D⌝, fun e h => ⌜e.Leaves (·.Settled none R D) h⌝⟩⦄

def StepsTied (m : Machine Outcome) (f : Nat) : Prop :=
  InLoopTied m f FiberBook.InTurn Outcome.inTurn FiberBook.InTurn

def ClosesTied (m : Machine Unit) (f : Nat) : Prop :=
  InLoopTied m f FiberBook.InTurn (fun _ => FiberBook.Looping) FiberBook.InTurn

def TurnsTied (n f : Nat) : Prop :=
  InLoopTied (turns n f) f FiberBook.Looping (fun _ _ _ => True) (fun _ _ => True)

variable {n f : Nat}

theorem runCmd_succ_tied {α : Type} (p : Cmd α) (hperf : ∀ r, KeepsTies (perform n r))
    (hrun : ∀ q : Cmd α, KeepsTies (runCmd n q)) : KeepsTies (runCmd (n + 1) p) := by
  intro R D
  have hp := fun r => hperf r R D
  have hr := fun q => hrun q R D
  cases p with
  | done a => rw [runCmd]; mvcgen
  | panic m => rw [runCmd]; mvcgen
  | call r k => rw [runCmd]; mvcgen [hp, hr]

theorem dispose_succ_tied (k : Nat) (hrel : ∀ r, ReleasesTied n r) : DisposesTied (n + 1) k := by
  intro R D
  have hr := fun r => hrel r R D
  rw [dispose]
  mvcgen [hr] with
  | vc1 h hs hnone =>
    have ht := hs.takeDisposal
    rw [hnone] at ht
    exact ht
  | vc2 h hs r hr =>
    have ht := hs.takeDisposal
    rw [hr] at ht
    exact ht

theorem disposeAll_succ_tied (ks : List Nat) (hdisp : ∀ k, DisposesTied n k)
    (hall : ∀ ks, KeepsTies (disposeAll n ks)) : KeepsTies (disposeAll (n + 1) ks) := by
  intro R D
  have hd := fun k => hdisp k R D
  have ha := fun ks => hall ks R D
  cases ks with
  | nil => rw [disposeAll]; mvcgen
  | cons k ks =>
    rw [disposeAll]
    mvcgen [hd, ha] with
    | vc1 h hs => exact hs.weaken _

theorem callAll_succ_tied (ks : List Nat) (v : Val) (hperf : ∀ r, KeepsTies (perform n r))
    (hall : ∀ ks v, KeepsTies (callAll n ks v)) : KeepsTies (callAll (n + 1) ks v) := by
  intro R D
  have hp := fun r => hperf r R D
  have ha := fun ks v => hall ks v R D
  cases ks with
  | nil => rw [callAll]; mvcgen
  | cons k ks => rw [callAll, discard_eq]; mvcgen [hp, ha]

theorem release_succ_tied (r : Release) (hperf : ∀ r, KeepsTies (perform n r))
    (hdisp : ∀ k, DisposesTied n k) (hall : ∀ ks, KeepsTies (disposeAll n ks)) :
    ReleasesTied (n + 1) r := by
  intro R D
  have hp := fun r => hperf r R D
  have hd := fun k => hdisp k R D
  have ha := fun ks => hall ks R D
  -- a release that stops no watcher leaves every tie as it was
  have hnone : ∀ {h : Heap} {r : Release}, h.Settled (some r) R D → (∀ w, r.stops w = false) →
      h.Settled none R D := fun hs hr => hs.of_not_stops hr
  cases r with
  | callback fn =>
    rw [release, discard_eq]
    mvcgen [hp] with
    | vc1 h hs => exact hnone hs fun _ => rfl
  | unwatch w =>
    rw [release]
    mvcgen with
    | vc1 h hs => exact hs.unwatch
  | detach g key =>
    rw [release]
    mvcgen with
    | vc1 h hs => exact (hnone hs fun _ => rfl).calm (Data.calm_groupDetach g key)
  | unobserve g key =>
    rw [release]
    mvcgen with
    | vc1 h hs => exact (hnone hs fun _ => rfl).calm (Data.calm_removeObserver g key)
  | cancelTimer t =>
    rw [release]
    mvcgen with
    | vc1 h hs => exact (hnone hs fun _ => rfl).calm (Data.calm_cancelTimer t)
  | removeTask c key =>
    rw [release]
    mvcgen [hd] with
    | vc1 h hs _ _ => exact ((hnone hs fun _ => rfl).calm (Data.calm_removeTask c key)).weaken _
    | vc2 h hs _ => exact (hnone hs fun _ => rfl).calm (Data.calm_removeTask c key)
  | disposeGroup g =>
    rw [release]
    mvcgen [ha] with
    | vc1 h hs => exact (hnone hs fun _ => rfl).calm (Data.calm_groupTake g)
  | dropFinalizer res key =>
    rw [release]
    mvcgen with
    | vc1 h hs => exact (hnone hs fun _ => rfl).calm (Data.calm_dropFinalizer res key)

theorem completeFuture_succ_tied (k : Nat) (e : Effect)
    (hnotify : ∀ ws e, KeepsTies (notify n ws e)) : KeepsTies (completeFuture (n + 1) k e) := by
  intro R D
  have hn := fun ws e => hnotify ws e R D
  rw [completeFuture]
  mvcgen [hn] with
  | vc1 h hs _ => exact hs.calm (Data.calm_resolveFuture k)
  | vc2 h hs _ _ t => exact (hs.calm (Data.calm_resolveFuture k)).of_same rfl rfl

theorem notify_succ_tied (ws : List Nat) (e : Effect) (hperf : ∀ r, KeepsTies (perform n r))
    (hresume : ∀ f e, KeepsTies (resume n f e)) (hnotify : ∀ ws e, KeepsTies (notify n ws e)) :
    KeepsTies (notify (n + 1) ws e) := by
  intro R D
  have hp := fun r => hperf r R D
  have hr := fun f e => hresume f e R D
  have hn := fun ws e => hnotify ws e R D
  cases ws with
  | nil => rw [notify]; mvcgen
  | cons k ws =>
    rw [notify]
    simp only [discard_eq]
    mvcgen [hp, hr, hn]
    all_goals exact (‹Heap.Settled _ _ _ _›).calm (Data.calm_takeWatcher k)

theorem QuietStable.leaving {R D : Set Nat} (link : Nat) :
    QuietStable fun h => h.Kept R D ∧ ((h.book f).started = true ∧ (h.book f).suspension = none) ∧
      h.data.inert link = true :=
  fun _ _ hpre hq => ⟨hpre.1.quiet hq, ⟨(congrArg FiberBook.started (hq.core f)).trans hpre.2.1.1,
    (FiberBook.suspension_of_core_eq (hq.core f)).trans hpre.2.1.2⟩, hq.inert link hpre.2.2⟩

theorem subscriptions_quiet : ∀ (h : Heap) d, h.data.Quiet d →
    (h.setData d).subscriptions = h.subscriptions :=
  fun _ _ hq => Heap.subscriptions_setData hq.core

theorem resume_succ_tied (e : Effect) (hruns : RunsTied n f) : KeepsTies (resume (n + 1) f e) := by
  intro R D
  refine triple_of_ghost (fun h => h.book f) fun b₀ => ?_
  rw [resume]
  cases hsus : b₀.suspension with
  | none =>
    mvcgen with
    | vc1 h hpre _ => exact hpre.1
    | vc2 h hpre _ hs =>
      rw [hpre.2, hsus] at hs
      cases hs
  | some s =>
    have hQ := QuietStable.leaving (R := R) (D := D) (f := f) s.link
    have hd := fun k => dispose_quiet_tied (n := n) hQ subscriptions_quiet k
    have hl := hruns R D
    mvcgen [hd, hl] with
    | vc1 h hpre _ => exact hpre.1
    | vc2 h hpre s' hs' =>
      obtain ⟨hs, hb⟩ := hpre
      obtain rfl : s' = s := by rw [hb, hsus] at hs'; exact (Option.some.inj hs').symm
      exact hs.leaving hs'
    | vc3 h₀ hpre s' hs' _ h hpost =>
      obtain rfl : s' = s := by rw [hpre.2, hsus] at hs'; exact (Option.some.inj hs').symm
      exact ⟨hpost.1, hpost.1.2.2, hpost.2.weaken _⟩
    | vc4 h₀ hpre _ _ _ _ _ _ h hpost =>
      obtain ⟨⟨hk, ⟨hst, hsus'⟩, -⟩, ht⟩ := hpost
      have hfR : f ∉ R := hpre.1.toKept.not_mem_of_suspended (hpre.2 ▸ hsus)
      refine ⟨(Heap.Settled.mk hk ht).updateCode fun h => absurd h hfR, ?_⟩
      simp only [Heap.book_updateCode]
      exact .inr (.inr ⟨hst, hsus'⟩)
    | vc5 | vc6 => exact fun he => he.mono fun _ h => h.elim

theorem interruptAs_succ_tied (requester : FiberId) (hruns : RunsTied n f) :
    KeepsTies (interruptAs (n + 1) f requester) := by
  intro R D
  refine triple_of_ghost (fun h => h.book f) fun b₀ => ?_
  rw [interruptAs]
  -- a request only adds to the interruption cause: the ties and the suspension are untouched
  have hreq : ∀ (h : Heap) x, h.Settled none R D →
      (h.updateBook f fun b => { b with interruptCause := b.interruptCause.combine x }).Settled none R D :=
    fun h x hs => hs.updateBook rfl id fun _ => (hs.paused f ‹_›).2.1
  have hsus_req : ∀ (h : Heap) x,
      ((h.updateBook f fun b => { b with interruptCause := b.interruptCause.combine x }).book
        f).suspension = (h.book f).suspension := by
    intro h x
    rw [Heap.book_updateBook_same]
    split <;> rfl
  cases hsus : b₀.suspension with
  | none =>
    mvcgen with
    | vc1 h hpre _ => exact hpre.1
    | vc2 h hpre _ _ _ | vc4 h hpre _ _ => exact hreq h _ hpre.1
    | vc3 h hpre _ _ s hs =>
      rw [hsus_req, hpre.2, hsus] at hs
      cases hs
  | some s =>
    have hQ := QuietStable.leaving (R := R) (D := D) (f := f) s.link
    have hd := fun k => dispose_quiet_tied (n := n) hQ subscriptions_quiet k
    have hl := hruns R D
    mvcgen [hd, hl] with
    | vc1 h hpre _ => exact hpre.1
    | vc2 h hpre _ _ hs' =>
      rw [hsus_req, hpre.2, hsus] at hs'
      cases hs'
    | vc3 h hpre _ hcond s' hs' =>
      obtain ⟨hs, hb⟩ := hpre
      obtain rfl : s' = s := by
        rw [hsus_req, hb, hsus] at hs'
        exact (Option.some.inj hs').symm
      exact (hreq h _ hs).leaving hs'
    | vc4 h₀ hpre _ _ s' hs' _ h hpost =>
      obtain rfl : s' = s := by
        rw [hsus_req, hpre.2, hsus] at hs'
        exact (Option.some.inj hs').symm
      exact ⟨hpost.1, hpost.1.2.2, hpost.2.weaken _⟩
    | vc5 h₀ hpre _ _ _ _ _ _ _ _ h hpost =>
      -- back from the disposals: the fiber is marked interrupting and runs its failure path
      obtain ⟨⟨hk, ⟨hst, hsus'⟩, -⟩, ht⟩ := hpost
      have hfR : f ∉ R := hpre.1.toKept.not_mem_of_suspended (hpre.2 ▸ hsus)
      have hu := (Heap.Settled.mk hk ht).updateBook (F := fun b => { b with interrupting := true })
        rfl id fun h => absurd h hfR
      refine ⟨hu.updateCode fun h => absurd h hfR, ?_⟩
      have hf := Heap.lt_of_started hst
      simp only [Heap.book_updateCode, Heap.book_updateBook_same, hf, if_true]
      exact .inr (.inr ⟨hst, hsus'⟩)
    | vc6 | vc7 => exact fun he => he.mono fun _ h => h.elim
    | vc8 h hpre _ hcond => exact hreq h _ hpre.1

theorem runLoop_of_le_tied (R D : Set Nat) :
    ⦃fun h => ⌜h.Settled none R D ∧ h.data.fibers.size ≤ f⌝⦄ runLoop n f
    ⦃post⟨fun _ h => ⌜h.Settled none R D⌝, fun e h => ⌜e.Leaves (·.Settled none R D) h⌝⟩⦄ := by
  match n with
  | 0 => rw [runLoop]; mvcgen
  | 1 =>
    rw [runLoop, turns]
    mvcgen with
    | vc1 h hpre _ => exact hpre.1
  | n + 2 =>
    rw [runLoop, turns]
    mvcgen with
    | vc1 h hpre _ => exact hpre.1
    | vc2 h hpre _ _ =>
      obtain ⟨hs, hf⟩ := hpre
      rw [Heap.updateBook_of_le _ hf, Heap.updateCode_of_le _ (hs.sizes ▸ hf),
        Heap.updateBook_of_le _ hf]
      exact hs
    | vc3 h hpre _ _ hi =>
      -- a fiber without code has no instruction
      obtain ⟨hs, hf⟩ := hpre
      rw [Heap.updateBook_of_le _ hf, Heap.codeOf_of_le (hs.sizes ▸ hf)] at hi
      cases hi

theorem start_succ_tied (hruns : RunsTied n f) : KeepsTies (start (n + 1) f) := by
  intro R D
  refine triple_of_ghost (fun h => decide (h.data.fibers.size ≤ f)) fun out => ?_
  rw [start]
  cases out with
  | true =>
    -- a fiber that does not exist counts as not started, and its loop does nothing
    have hl := runLoop_of_le_tied (n := n) (f := f) R D
    mvcgen [hl] with
    | vc1 h hpre _ => exact hpre.1
    | vc2 h hpre _ =>
      obtain ⟨hs, hf⟩ := hpre
      have hf : h.data.fibers.size ≤ f := of_decide_eq_true hf
      exact ⟨by rw [Heap.updateBook_of_le _ hf]; exact hs, by simpa using hf⟩
  | false =>
    have hl := hruns R D
    mvcgen [hl] with
    | vc1 h hpre _ => exact hpre.1
    | vc2 h hpre hst =>
      obtain ⟨hs, hf⟩ := hpre
      have hf : f < h.data.fibers.size := Nat.lt_of_not_le (of_decide_eq_false hf)
      have hst := Bool.eq_false_iff.2 hst
      refine ⟨hs.updateBook rfl (fun _ => rfl) fun h => absurd hst (by simp [(hs.paused f h).1]), ?_⟩
      simp only [Heap.book_updateBook_same, hf, if_true]
      exact .inr (.inr ⟨rfl, hs.fresh f hst⟩)

theorem runLoop_succ_tied (hturns : TurnsTied n f) : RunsTied (n + 1) f := by
  intro R D
  by_cases hfR : f ∈ R
  · -- a fiber in a turn is running, and its loop is not entered again
    rw [runLoop]
    mvcgen with
    | vc1 h hpre _ => exact hpre.1
    | vc2 h hpre hidle => exact absurd (by simp [(hpre.1.paused f hfR).2.1]) hidle
  have ht := hturns R D hfR
  rw [runLoop]
  mvcgen [ht] with
  | vc1 h hpre _ => exact hpre.1
  | vc2 h hpre hidle =>
    obtain ⟨hs, hen⟩ := hpre
    simp only [Bool.or_eq_true, not_or, Bool.not_eq_true, Option.isSome_eq_false_iff,
      Option.isNone_iff_eq_none] at hidle
    obtain ⟨hst, hsus⟩ : (h.book f).started = true ∧ (h.book f).suspension = none := by
      rcases hen with hr | hx | hen
      · simp [hidle.1] at hr
      · simp [hidle.2] at hx
      · exact hen
    have hf := Heap.lt_of_started hst
    refine ⟨hs.updateBook rfl id fun _ => rfl, ?_⟩
    simp only [Heap.book_updateBook_same, hf, if_true, Heap.codeOf_updateBook]
    exact ⟨hst, rfl, fun _ => hsus⟩
  | vc3 hpost => exact hpost.updateBook rfl id fun h => absurd h hfR
  | vc4 => exact fun he => he.mono fun _ h => h

theorem perform_succ_tied (r : Request) (hrun : ∀ {β : Type} (q : Cmd β), KeepsTies (runCmd n q))
    (hdisp : ∀ k, DisposesTied n k) (hcomp : ∀ k e, KeepsTies (completeFuture n k e))
    (hstart : ∀ f, KeepsTies (start n f)) (hint : ∀ f r, KeepsTies (interruptAs n f r))
    (hperf : ∀ r, KeepsTies (perform n r)) : KeepsTies (perform (n + 1) r) := by
  intro R D
  have hp := fun r => hperf r R D
  have hr := fun {β : Type} (q : Cmd β) => hrun q R D
  have hd := fun k => hdisp k R D
  have hc := fun k e => hcomp k e R D
  have hs := fun f => hstart f R D
  have hi := fun f r => hint f r R D
  cases r with
  | data g =>
    rw [perform]
    mvcgen with | vc1 h hs => exact hs.calm (Data.calm_guard _)
  | keepFn g | keepBuilder g | keepEffect g =>
    rw [perform]
    mvcgen with | vc1 h hs _ => exact hs.of_same rfl rfl
  | call k arg => rw [perform]; mvcgen [hr]
  | build k arg =>
    rw [perform]
    mvcgen [hr] with
    | vc2 _ _ _ _ _ _ _ hs _ | vc3 _ hs _ _ _ => exact hs.of_same rfl rfl
  | dispose k =>
    rw [perform]
    mvcgen [hd] with | vc1 h hs => exact hs.weaken _
  | newFuture e =>
    rw [perform]
    mvcgen [newFuture] with
    | vc1 h hs _ => exact (hs.calm (d := { h.data with futures := h.data.futures.push _ })
        (.of_eq rfl rfl rfl)).of_same rfl rfl
  | complete k e => rw [perform]; mvcgen [hc]
  | newFiber e id opts =>
    rw [perform]
    mvcgen [newFiber] with
    | vc1 h hs _ => exact (hs.calm Data.calm_newGroup).pushFiber rfl rfl rfl
  | start k => rw [perform]; mvcgen [hs]
  | interrupt k x => rw [perform]; mvcgen [hi]
  | observe k cb =>
    rw [perform]
    mvcgen with | vc1 h hs => exact hs.calm (Data.calm_addObserver k cb)
  | watch k cb =>
    rw [perform]
    mvcgen [hp]
    all_goals exact (‹Heap.Settled _ _ _ _›).calm (Data.calm_addWatcher_callback k cb)

theorem continueWith_succ_tied (v : Val) (hrun : ∀ {β : Type} (q : Cmd β), KeepsTies (runCmd n q))
    (hcw : ∀ v, StepsTied (continueWith n f v) f) (hcc : ∀ c, StepsTied (continueWithCause n f c) f) :
    StepsTied (continueWith (n + 1) f v) f := by
  intro R D hfR
  have hr := fun {β : Type} (q : Cmd β) => hrun q (insert f R) D
  have hv := fun v => hcw v R D hfR
  have hc := fun c => hcc c R D hfR
  rw [continueWith]
  mvcgen [hr, hv, hc] with
  | vc1 hpre _ | vc14 hpre _ _ | vc15 hpre _ _ => exact Heap.Turning.updateCode hpre rfl
  | vc2 hpre _ _ | vc5 hpre _ _ | vc8 hpre _ _ _ =>
    -- the frame is popped before its function runs, with the fiber held in its turn
    exact Heap.Turning.hold (Heap.Turning.updateCode hpre rfl)
  | vc3 hpost => exact hpost.unhold
  | vc6 | vc9 => exact fun hpost => hpost.unhold
  | vc4 | vc7 | vc10 => exact fun he => he.mono fun _ hh => hh.unhold
  | vc11 hpre _ _ _ | vc12 hpre _ _ | vc13 hpre _ _ =>
    exact Heap.Turning.updateBook (Heap.Turning.updateCode hpre rfl) (by simp)

theorem continueWithCause_succ_tied (c : Cause Json)
    (hrun : ∀ {β : Type} (q : Cmd β), KeepsTies (runCmd n q))
    (hcc : ∀ c, StepsTied (continueWithCause n f c) f) :
    StepsTied (continueWithCause (n + 1) f c) f := by
  intro R D hfR
  have hr := fun {β : Type} (q : Cmd β) => hrun q (insert f R) D
  have hc := fun c => hcc c R D hfR
  rw [continueWithCause]
  mvcgen [hr, hc] with
  | vc1 hpre _ | vc14 hpre _ _ | vc15 hpre _ _ => exact Heap.Turning.updateCode hpre rfl
  | vc2 hpre _ _ =>
    exact Heap.Turning.hold (Heap.Turning.updateCode hpre rfl)
  | vc5 hpre _ _ | vc8 hpre _ _ _ =>
    -- a recovering handler runs with the interruption it recovers from cleared
    exact Heap.Turning.hold (Heap.Turning.updateBook (Heap.Turning.updateCode hpre rfl) (by simp))
  | vc3 hpost => exact hpost.unhold
  | vc6 | vc9 => exact fun hpost => hpost.unhold
  | vc4 | vc7 | vc10 => exact fun he => he.mono fun _ hh => hh.unhold
  | vc11 hpre _ _ _ | vc12 hpre _ _ | vc13 hpre _ _ =>
    exact Heap.Turning.updateBook (Heap.Turning.updateCode hpre rfl) (by simp)

theorem pushFlags_tied (fl : Flags) :
    InLoopTied (pushFlags f fl) f FiberBook.InTurn (fun _ => FiberBook.InTurn)
      FiberBook.InTurn := by
  intro R D hfR
  mvcgen [pushFlags] with
  | vc1 hpre _ _ =>
    exact Heap.Turning.updateCode (Heap.Turning.updateBook (Heap.Turning.updateCode hpre rfl)
      ⟨rfl, rfl, rfl⟩) rfl
  | vc2 hpre _ _ =>
    exact Heap.Turning.updateCode (Heap.Turning.updateBook hpre ⟨rfl, rfl, rfl⟩) rfl

theorem step_succ_tied (e : Effect) (hrun : ∀ {β : Type} (q : Cmd β), KeepsTies (runCmd n q))
    (hcw : ∀ v, StepsTied (continueWith n f v) f) (hcc : ∀ c, StepsTied (continueWithCause n f c) f)
    (hsus : ∀ k, StepsTied (suspendOn n f k) f) : StepsTied (step (n + 1) f e) f := by
  intro R D hfR
  have hr := fun {β : Type} (q : Cmd β) => hrun q (insert f R) D
  have hv := fun v => hcw v R D hfR
  have hc := fun c => hcc c R D hfR
  have hk := fun k => hsus k R D hfR
  have hpf := fun fl => pushFlags_tied (f := f) fl R D hfR
  rw [step]
  mvcgen [hr, hv, hc, hk, hpf] with
  | vc3 hpre | vc8 hpre | vc21 hpre | vc12 hpre _ _ => exact hpre.1.hold hpre.2
  | vc4 hpost | vc5 hpost | vc6 hpost => exact hpost.unhold
  | vc9 | vc13 | vc22 => exact fun hpost => hpost.unhold
  | vc7 | vc10 | vc14 | vc23 => exact fun he => he.mono fun _ hh => hh.unhold
  | vc16 hpre | vc17 hpre | vc18 hpre | vc19 hpre | vc20 hpre =>
    exact Heap.Turning.updateCode hpre rfl
  | vc24 hpre | vc30 hpre =>
    exact Heap.Turning.updateCode (Heap.Turning.updateBook hpre ⟨rfl, rfl, rfl⟩) rfl

theorem suspendOn_tied (k : Nat) : StepsTied (suspendOn n f k) f := by
  intro R D hfR
  cases n with
  | zero => rw [suspendOn]; mvcgen
  | succ n =>
    -- while the link is made the fiber is held in its turn, and its resumption is tied to the
    -- subscription it is about to take
    have hQ : QuietStable fun h => h.Kept (insert f R) D := fun _ _ hk hq => hk.quiet hq
    have hg := fun g m => groupAdd_quiet_tied (n := n)
      (σ := fun h => Function.update h.subscriptions f (some m)) hQ
      (fun h d hq => by rw [subscriptions_quiet h d hq]) g m
    rw [suspendOn]
    mvcgen [hg] with
    | vc2 hpre _ _ _ =>
      obtain ⟨hs, hturn⟩ := hpre
      obtain ⟨hq, ht, hsub⟩ := hs.watchResume hturn.2.2.1 k
      exact ⟨(hs.toKept.hold hturn).quiet hq, hsub, ht⟩
    | vc3 hpost =>
      obtain ⟨hk, hlink, hsub, ht⟩ := hpost
      have hturn := hk.paused f (Set.mem_insert f R)
      have hf := Heap.lt_of_started hturn.1
      refine ⟨Heap.Settled.suspend hk hfR ht hsub hlink, ?_⟩
      simp only [Heap.book_updateBook_same, hf, if_true, Heap.codeOf_updateBook]
      exact ⟨hturn.1, hturn.2.1, hturn.2.2.2⟩
    | vc4 => exact fun he => he.mono fun _ h => h.elim

theorem complete_succ_tied (x : Exit) (hdisp : ∀ ks, KeepsTies (disposeAll n ks))
    (hcall : ∀ ks v, KeepsTies (callAll n ks v)) : ClosesTied (complete (n + 1) f x) f := by
  intro R D hfR
  have hd := fun ks => hdisp ks (insert f R) D
  have hc := fun ks v => hcall ks v (insert f R) D
  rw [complete]
  mvcgen [hd, hc] with
  | vc1 hpre _ => exact ⟨hpre.1, hpre.2.looping _⟩
  | vc2 hpre _ =>
    -- the fiber gives up its code and waits on nothing; it is held in its turn while its
    -- subscriptions are disposed and its observers told
    exact Heap.Settled.calm (Heap.Turning.hold (Heap.Turning.updateBook
      (Heap.Turning.updateCode hpre hpre.2.2.2.2.symm) ⟨rfl, rfl, hpre.2.2.2.1.symm⟩))
      (Data.calm_groupTake _)
  | vc3 hpost => exact hpost.calm (Data.calm_takeObservers f)
  | vc4 => exact fun hpost => ⟨hpost.unhold.1, hpost.unhold.2.looping _⟩
  | vc5 | vc6 => exact fun he => he.mono fun _ hh => hh.unhold

theorem done_succ_tied (x : Exit) (hcomp : ∀ x, ClosesTied (complete n f x) f) :
    ClosesTied (done (n + 1) f x) f := by
  intro R D hfR
  have hc := fun x => hcomp x R D hfR
  rw [done]
  mvcgen [hc] with
  | vc1 hpre _ _ => exact Heap.Turning.updateBook hpre ⟨rfl, rfl, rfl⟩
  | vc3 hpre _ _ => exact Heap.Turning.setInstr (Heap.Turning.updateBook hpre ⟨rfl, rfl, rfl⟩) hfR _

theorem turns_succ_tied (hstep : ∀ e, StepsTied (step n f e) f)
    (hdone : ∀ x, ClosesTied (done n f x) f) (hturns : TurnsTied n f) : TurnsTied (n + 1) f := by
  intro R D hfR
  have hs := fun e => hstep e R D hfR
  have hd := fun x => hdone x R D hfR
  have ht := hturns R D hfR
  rw [turns]
  mvcgen [hs, hd, ht] with
  | vc1 hpre _ => exact hpre.1.updateCode fun h => absurd h hfR
  | vc2 hpre _ hc =>
    exact Heap.Turning.updateBook (Heap.Turning.takeInstr hpre.1 hfR hpre.2 (by simp [hc])) (by simp)
  | vc3 hpost => exact Heap.Turning.setInstr hpost hfR _
  | vc4 hpost =>
    obtain ⟨hs, hst, hrun, hi⟩ := hpost
    exact ⟨hs, hst, hrun, fun h => by simp [hi] at h⟩
  | vc7 => exact fun he => he.mono fun _ hh => hh.1
  | vc8 hpanic _ => exact Heap.Turning.setInstr hpanic hfR _

/-- Every function of the machine, given fuel `n`, keeps the ties: the computations callable
from anywhere keep them outright, disposal and release restore the one they may break, and
the functions of a fiber's loop keep them with the fiber's own contract. -/
structure TiedContracts (n : Nat) : Prop where
  runCmd : ∀ {β : Type} (q : Cmd β), KeepsTies (runCmd n q)
  perform : ∀ r, KeepsTies (perform n r)
  dispose : ∀ k, DisposesTied n k
  release : ∀ r, ReleasesTied n r
  disposeAll : ∀ ks, KeepsTies (disposeAll n ks)
  callAll : ∀ ks v, KeepsTies (callAll n ks v)
  completeFuture : ∀ k e, KeepsTies (completeFuture n k e)
  notify : ∀ ws e, KeepsTies (notify n ws e)
  resume : ∀ f e, KeepsTies (resume n f e)
  interruptAs : ∀ f x, KeepsTies (interruptAs n f x)
  start : ∀ f, KeepsTies (start n f)
  runLoop : ∀ f, RunsTied n f
  turns : ∀ f, TurnsTied n f
  step : ∀ f e, StepsTied (step n f e) f
  continueWith : ∀ f v, StepsTied (continueWith n f v) f
  continueWithCause : ∀ f c, StepsTied (continueWithCause n f c) f
  done : ∀ f x, ClosesTied (done n f x) f
  complete : ∀ f x, ClosesTied (complete n f x) f

theorem TiedContracts.zero : TiedContracts 0 where
  runCmd _ := by intro R D; rw [Machine.runCmd]; mvcgen
  perform _ := by intro R D; rw [Machine.perform]; mvcgen
  dispose _ := by intro R D; rw [Machine.dispose]; mvcgen
  release _ := by intro R D; rw [Machine.release]; mvcgen
  disposeAll _ := by intro R D; rw [Machine.disposeAll]; mvcgen
  callAll _ _ := by intro R D; rw [Machine.callAll]; mvcgen
  completeFuture _ _ := by intro R D; rw [Machine.completeFuture]; mvcgen
  notify _ _ := by intro R D; rw [Machine.notify]; mvcgen
  resume _ _ := by intro R D; rw [Machine.resume]; mvcgen
  interruptAs _ _ := by intro R D; rw [Machine.interruptAs]; mvcgen
  start _ := by intro R D; rw [Machine.start]; mvcgen
  runLoop _ := by intro R D; rw [Machine.runLoop]; mvcgen
  turns _ := by intro R D _; rw [Machine.turns]; mvcgen
  step _ _ := by intro R D _; rw [Machine.step]; mvcgen
  continueWith _ _ := by intro R D _; rw [Machine.continueWith]; mvcgen
  continueWithCause _ _ := by intro R D _; rw [Machine.continueWithCause]; mvcgen
  done _ _ := by intro R D _; rw [Machine.done]; mvcgen
  complete _ _ := by intro R D _; rw [Machine.complete]; mvcgen

/-- One more unit of fuel: each function keeps its contract when its callees keep theirs. -/
theorem TiedContracts.succ (hc : TiedContracts n) : TiedContracts (n + 1) where
  runCmd q := runCmd_succ_tied q hc.perform hc.runCmd
  perform r := perform_succ_tied r hc.runCmd hc.dispose hc.completeFuture hc.start hc.interruptAs hc.perform
  dispose k := dispose_succ_tied k hc.release
  release r := release_succ_tied r hc.perform hc.dispose hc.disposeAll
  disposeAll ks := disposeAll_succ_tied ks hc.dispose hc.disposeAll
  callAll ks v := callAll_succ_tied ks v hc.perform hc.callAll
  completeFuture k e := completeFuture_succ_tied k e hc.notify
  notify ws e := notify_succ_tied ws e hc.perform hc.resume hc.notify
  resume f e := resume_succ_tied e (hc.runLoop f)
  interruptAs f x := interruptAs_succ_tied x (hc.runLoop f)
  start f := start_succ_tied (hc.runLoop f)
  runLoop f := runLoop_succ_tied (hc.turns f)
  turns f := turns_succ_tied (hc.step f) (hc.done f) (hc.turns f)
  step f e := step_succ_tied e hc.runCmd (hc.continueWith f) (hc.continueWithCause f)
    suspendOn_tied
  continueWith f v := continueWith_succ_tied v hc.runCmd (hc.continueWith f) (hc.continueWithCause f)
  continueWithCause f c := continueWithCause_succ_tied c hc.runCmd (hc.continueWithCause f)
  done f x := done_succ_tied x (hc.complete f)
  complete _ x := complete_succ_tied x hc.disposeAll hc.callAll

theorem tiedContracts : ∀ n, TiedContracts n
  | 0 => .zero
  | n + 1 => (tiedContracts n).succ

end Machine

end FiberEffects
