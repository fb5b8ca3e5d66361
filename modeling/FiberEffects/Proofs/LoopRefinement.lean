import FiberEffects.Proofs.LoopTurns

namespace FiberEffects

namespace Heap

def WaitsOn (h : Heap) (f k : Nat) : Prop :=
  ∃ s w, (h.book f).suspension = some s ∧
    h.data.disposables[s.subscription]? = some ⟨false, some (.unwatch w)⟩ ∧
    h.data.watched.lookup w = some k

end Heap

open Machine Heap

/-- Fiber `f`, left by its loop at `h`, publishes `x` once each future it waits on resumes it with
the effect `φ` gives the future. -/
inductive Driven (φ : Nat → Option Effect) (f : Nat) : Heap → Exit → Prop
  | published {h x} : h.Published f x → Driven φ f h x
  | resumed {h k e n h' x} : h.WaitsOn f k → φ k = some e → exec (resume n f e) h = (.ok (), h') →
      Driven φ f h' x → Driven φ f h x

def Leaves (W : World) (E : Set Effect) (f : Nat) (σ : Conf) (H : Heap) : Prop :=
  ((H.book f).suspension = none ∧ ∃ r, H.Published f r ∧ Runs W σ r) ∨
    ∃ k tr K S, Waiting W f H S K k ∧ Conf.Within W E ⟨⟨.await k, tr⟩, K, S⟩ ∧
      ∀ r, Runs W ⟨⟨.await k, tr⟩, K, S⟩ r → Runs W σ r

section Refinement

variable {W : World} {E : Set Effect} {f : Nat} {σ : Conf}

/-- A turn of the fragment goes on in the fragment. -/
theorem Conf.Within.next (hσ : σ.Within W E) (hE : Closed W E) {σ' : Conf}
    (ht : turnOf W σ = some (.next σ')) : σ'.Within W E := by
  rcases hσ.turn hE with ⟨t, ht', hw⟩ | ⟨k, tr, hi, hk⟩
  · rw [ht] at ht'
    cases ht'
    exact hw
  · obtain ⟨⟨i, tr'⟩, K, S⟩ := σ
    cases hi
    simp [turnOf, TurnEnd.ofNext, hk] at ht

theorem Waiting.waitsOn {H : Heap} {S : Scopes} {K : List Frame} {k : Nat} (hw : Waiting W f H S K k) :
    (H.rest f).WaitsOn f k := by
  obtain ⟨ha, _, sub, link, w, _, _, hsus, hsub, hw, _, _⟩ := hw
  exact ⟨⟨sub, link⟩, w, by rw [book_rest ha.hasBook]; exact hsus, hsub, hw⟩

/-- A fiber waits on one future only. -/
theorem Waiting.waitsOn_eq {H : Heap} {S : Scopes} {K : List Frame} {k k' : Nat}
    (hw : Waiting W f H S K k) (hk : (H.rest f).WaitsOn f k') : k' = k := by
  obtain ⟨ha, _, sub, link, w, _, _, hsus, hsub, hw, _, _⟩ := hw
  obtain ⟨s, w', hs, hsub', hw'⟩ := hk
  rw [book_rest ha.hasBook] at hs
  rw [hsus] at hs
  cases hs
  rw [show (H.rest f).data.disposables = H.data.disposables from rfl, hsub] at hsub'
  simp only [Option.some.injEq, DisposableCell.mk.injEq, Release.unwatch.injEq, true_and] at hsub'
  subst hsub'
  rw [show (H.rest f).data.watched = H.data.watched from rfl, hw] at hw'
  exact (Option.some.inj hw').symm

theorem turns_leaves (hE : Closed W E) : ∀ n {σ : Conf} {h H : Heap}, σ.Within W E →
    Ready W f h σ.scopes σ.frames (some σ.instr) → exec (turns n f) h = (.ok (), H) →
    Leaves W E f σ H := by
  intro n
  induction n with
  | zero =>
    intro σ h H _ _ hrun
    rw [turns] at hrun
    cases hrun
  | succ n ih =>
    intro σ h H hσ hr hrun
    obtain ⟨e, K, S⟩ := σ
    have hd : (∃ t, turnOf W ⟨e, K, S⟩ = some t) ∨ ∃ k tr, e = ⟨.await k, tr⟩ := by
      rcases hσ.turn hE with ⟨t, ht, _⟩ | ⟨k, tr, he, _⟩
      · exact .inl ⟨t, ht⟩
      · exact .inr ⟨k, tr, he⟩
    obtain ⟨c, R, hn, hs⟩ := needs_step (hr.setCode none K) hd
    -- the step had its fuel, or the loop would have run out
    have hc : c ≤ n := by
      by_contra hlt
      have hout := exec_turns_fault hr.code hr.interruptsNow ((hn n).2 (by omega))
      rw [hrun] at hout
      cases hout
    have hR := hn.run hc
    rcases hs with ⟨t, ht, hl⟩ | ⟨k, tr, he, hsus, hw⟩
    · cases t with
      | next σ' =>
        obtain ⟨e', K', S'⟩ := σ'
        obtain ⟨H₁, hr₁, heq⟩ := turns_next hr hl
        rw [heq n hR] at hrun
        rcases ih (hσ.next hE ht) hr₁ hrun with ⟨hsus, r, hp, hruns⟩ | ⟨k, tr, K', S', hw, hwin, himp⟩
        · exact .inl ⟨hsus, r, hp, .next ht hruns⟩
        · exact .inr ⟨k, tr, K', S', hw, hwin, fun r hr => .next ht (himp r hr)⟩
      | done x =>
        obtain ⟨h', S', hr', rfl⟩ := hl
        obtain ⟨Hd, hnd, hp, hsus⟩ := needs_done_turns hr' x
        rw [exec_turns_done hr hR] at hrun
        obtain rfl : Hd = H := (Prod.mk.inj (hnd.of_ok hrun)).2
        exact .inl ⟨hsus, x, hp, .done ht⟩
    · -- the fiber suspended, so the loop stops with it where the step left it
      have hR' : exec (step n f e) (h.setCode f ⟨none, K⟩) = (.ok .suspend, R.2) := by rw [hR, ← hsus]
      rw [exec_turns_suspend hr hR'] at hrun
      have hidle := needs_turns_idle (show (R.2.codeOf f).instr = none by rw [hw.2.1])
      obtain rfl : R.2 = H := (Prod.mk.inj (hidle.of_ok hrun)).2
      simp only at he
      subst he
      exact .inr ⟨k, tr, K, S, hw, hσ, fun r hr => hr⟩

/-- A fiber the loop left, resumed as `Driven` says, publishes an exit that the turn machine runs to. -/
theorem Driven.runs (hE : Closed W E) {G : Heap} {x : Exit} (hd : Driven W.future f G x) :
    ∀ {σ : Conf} {H : Heap}, G = H.rest f → σ.Within W E → Leaves W E f σ H → Runs W σ x := by
  induction hd with
  | @published h x hp =>
    intro σ H hG _ hl
    subst hG
    rcases hl with ⟨_, r, hpr, hruns⟩ | ⟨k, tr, K, S, hw, _, _⟩
    · obtain rfl : x = r := Option.some.inj (hp.symm.trans hpr.rest)
      exact hruns
    · have hx : ((H.rest f).book f).exit = none := by rw [book_rest hw.1.hasBook]; exact hw.1.quiet.exit
      rw [Published, hx] at hp
      cases hp
  | @resumed h k e n h' x hwo hφ hres _ ih =>
    intro σ H hG hσ hl
    subst hG
    rcases hl with ⟨hsus, _⟩ | ⟨k', tr, K, S, hw, hwin, himp⟩
    · obtain ⟨s, _, hs, _⟩ := hwo
      rcases Nat.lt_or_ge f H.data.fibers.size with hf | hf
      · rw [book_rest hf, show ({ H.book f with running := false } : FiberBook).suspension =
          (H.book f).suspension from rfl, hsus] at hs
        cases hs
      · rw [Heap.rest, updateBook_of_le _ hf, hsus] at hs
        cases hs
    · obtain rfl : k = k' := hw.waitsOn_eq hwo
      -- the turn machine goes on after the await with the effect the fiber is resumed with
      have ht : turnOf W ⟨⟨.await k, tr⟩, K, S⟩ = some (.next ⟨e, K, S⟩) := by
        simp [turnOf, TurnEnd.ofNext, hφ]
      obtain ⟨H₁, hr₁, hlow, hhigh⟩ := exec_resume hw e
      obtain ⟨m, rfl⟩ : ∃ m, n = m + 3 := by
        refine ⟨n - 3, ?_⟩
        by_contra hn
        have hout := hlow n (by omega)
        rw [hres] at hout
        cases hout
      rw [hhigh m] at hres
      obtain ⟨H₂, hturns, rfl⟩ := exec_then_rest.1 hres
      have hσ₁ := hwin.next hE ht
      exact himp x (.next ht (ih rfl hσ₁ (turns_leaves hE (m + 1) hσ₁ hr₁ hturns)))

theorem Runs.drives {r : Exit} (hruns : Runs W σ r) : ∀ {h : Heap}, Ready W f h σ.scopes σ.frames (some σ.instr) →
    ∃ c H, Needs (turns · f) h c (.ok (), H) ∧ Driven W.future f (H.rest f) r := by
  have h0 : ∀ {h : Heap}, (exec (turns 0 f) h).1 = .error .outOfFuel := by
    intro h
    rw [turns]
    rfl
  induction hruns with
  | @done σ r ht =>
    intro h hr
    obtain ⟨e, K, S⟩ := σ
    obtain ⟨c, R, hn, hs⟩ := needs_step (hr.setCode none K) (.inl ⟨_, ht⟩)
    rcases hs with ⟨t, ht', hl⟩ | ⟨k, tr, he, _, _⟩
    · rw [ht] at ht'
      cases ht'
      obtain ⟨h', S', hr', rfl⟩ := hl
      obtain ⟨Hd, hnd, hp, _⟩ := needs_done_turns hr' r
      exact ⟨max c 3 + 1, Hd, .after h0
        (fun n hlt => exec_turns_fault hr.code hr.interruptsNow ((hn n).2 hlt))
        (fun n hc => exec_turns_done hr (hn.run hc)) hnd, .published hp.rest⟩
    · -- an await never ends a turn with an exit
      simp only at he
      subst he
      simp [turnOf, TurnEnd.ofNext] at ht
  | @next σ σ' r ht _ ih =>
    intro h hr
    obtain ⟨e, K, S⟩ := σ
    obtain ⟨c, R, hn, hs⟩ := needs_step (hr.setCode none K) (.inl ⟨_, ht⟩)
    have hlow : ∀ n, n < c → (exec (turns (n + 1) f) h).1 = .error .outOfFuel :=
      fun n hlt => exec_turns_fault hr.code hr.interruptsNow ((hn n).2 hlt)
    rcases hs with ⟨t, ht', hl⟩ | ⟨k, tr, he, hsus, hw⟩
    · rw [ht] at ht'
      cases ht'
      obtain ⟨e', K', S'⟩ := σ'
      obtain ⟨H₁, hr₁, heq⟩ := turns_next hr hl
      obtain ⟨d, H, hm, hdr⟩ := ih hr₁
      exact ⟨max c d + 1, H, .after h0 hlow (fun n hc => heq n (hn.run hc)) hm, hdr⟩
    · -- the fiber suspends on a future that resolves later with the effect the turn machine goes
      -- on with; resuming it runs the loop from there
      simp only at he
      subst he
      obtain ⟨e', hφ, rfl⟩ : ∃ e', W.future k = some e' ∧ σ' = ⟨e', K, S⟩ := by
        cases hk : W.future k with
        | none => simp [turnOf, TurnEnd.ofNext, hk] at ht
        | some e' =>
          simp only [turnOf, TurnEnd.ofNext, hk, Option.map_some, Option.some.injEq, TurnEnd.next.injEq] at ht
          exact ⟨e', rfl, ht.symm⟩
      have hR : ∀ n, c ≤ n → exec (step n f ⟨.await k, tr⟩) (h.setCode f ⟨none, K⟩) = (.ok .suspend, R.2) := by
        intro n hc
        rw [hn.run hc, ← hsus]
      obtain ⟨H₁, hr₁, _, hhigh⟩ := exec_resume hw e'
      obtain ⟨d, H, hm, hdr⟩ := ih hr₁
      have hres : exec (resume (d + 3) f e') (R.2.rest f) = (.ok (), H.rest f) := by
        rw [hhigh d]
        exact exec_then_rest.2 ⟨H, hm.run (by omega), rfl⟩
      exact ⟨max c 1 + 1, R.2, .after h0 hlow (fun n hc => exec_turns_suspend hr (hR n hc))
        (needs_turns_idle (show (R.2.codeOf f).instr = none by rw [hw.2.1])),
        .resumed hw.waitsOn hφ hres hdr⟩

end Refinement

/-- The fiber loop refines evaluation: a fiber publishes `x` exactly when its effect evaluates to `x`. -/
theorem publishes_iff_evaluates {h : Heap} {φ : Nat → Option Effect} {E : Set Effect} {e : Effect}
    {id : FiberId} {opts : Options} {x : Exit} (hE : Closed (h.world φ) E) (he : e ∈ E)
    (hsize : h.code.size = h.data.fibers.size) (hscope : h.data.children opts.scope = [])
    (hφ : ∀ k e, h.futures[k]? = some (some e) → φ k = some e) :
    (∃ n h', exec (start n h.data.fibers.size) (exec (newFiber e id opts) h).2 = (.ok true, h') ∧
      Driven φ h.data.fibers.size h' x) ↔ Evaluates (h.world φ) opts.env e x := by
  obtain ⟨H₀, hr, hlow, hstart⟩ := exec_start_newFiber e id hsize hscope hφ
  have hσ : Conf.Within (h.world φ) E ⟨e, [], opts.scopes⟩ := ⟨hE e he, by simp⟩
  constructor
  · rintro ⟨n, h', hrun, hd⟩
    -- the start had its two units of fuel, and the loop it ran returned
    obtain ⟨m, rfl⟩ : ∃ m, n = m + 2 := by
      refine ⟨n - 2, ?_⟩
      by_contra hn
      have hout := hlow n (by omega)
      rw [hrun] at hout
      cases hout
    rw [hstart m, exec_bind] at hrun
    rcases hloop : exec (turns m h.data.fibers.size >>= fun _ =>
        modifyBook h.data.fibers.size fun b => { b with running := false }) H₀ with ⟨_ | ⟨⟩, G⟩
    · rw [hloop] at hrun
      cases hrun
    · rw [hloop] at hrun
      cases hrun
      obtain ⟨H, hturns, rfl⟩ := exec_then_rest.1 hloop
      have hruns := hd.runs hE rfl hσ (turns_leaves hE m hσ hr hturns)
      obtain ⟨y, hev, hres⟩ := runs_iff_final.1 hruns
      cases hres
      simpa using hev
  · intro hev
    have hruns : Runs (h.world φ) ⟨e, [], opts.scopes⟩ x := runs_iff_final.2 ⟨x, by simpa using hev, .nil⟩
    obtain ⟨c, H, hm, hd⟩ := hruns.drives hr
    refine ⟨c + 2, H.rest h.data.fibers.size, ?_, hd⟩
    rw [hstart c, exec_bind, exec_then_rest.2 ⟨H, hm.run le_rfl, rfl⟩]
    rfl

theorem await_then_publishes_iff_evaluates :
    let φ : Nat → Option Effect := fun k => if k = 0 then some (Effect.of (.nat 1)) else none
    let e := Effect.flatMap (Effect.await 0) fun v => .done (Effect.of v)
    (∃ n h', exec (start n (default : Heap).data.fibers.size)
        (exec (newFiber e .none default) (default : Heap)).2 = (.ok true, h') ∧
      Driven φ (default : Heap).data.fibers.size h' (.ok (.nat 1))) ↔
      Evaluates ((default : Heap).world φ) (default : Options).env e (.ok (.nat 1)) :=
  publishes_iff_evaluates
    (E := {Effect.flatMap (Effect.await 0) fun v => .done (Effect.of v), Effect.await 0} ∪
      Set.range Effect.of)
    (by
      rintro e ((rfl | rfl) | ⟨v, rfl⟩)
      · exact ⟨Or.inl (Or.inr rfl), fun v => Or.inr ⟨v, rfl⟩⟩
      · rintro e' he'
        simp only [Heap.world, if_pos] at he'
        cases he'
        exact Or.inr ⟨_, rfl⟩
      · trivial)
    (Or.inl (Or.inl rfl)) rfl rfl
    (by intro k e hk; simp [show (default : Heap).futures = #[] from rfl] at hk)

end FiberEffects
