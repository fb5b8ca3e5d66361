import FiberEffects.Proofs.LoopInvariant

open Std.Do

set_option mvcgen.warning false

namespace FiberEffects

def TameStable (Q : Heap → Prop) : Prop := ∀ h d, Q h → h.data.Tame d → Q (h.setData d)

theorem TameStable.and_inert {Q : Heap → Prop} (hQ : TameStable Q) (k : Nat) :
    TameStable fun h => Q h ∧ h.data.inert k :=
  fun h d ⟨hq, hk⟩ ht => ⟨hQ h d hq ht, ht.inert k hk⟩

theorem TameStable.steady {w : Set Nat} {P : Nat → Option Pause} {f : Nat}
    {R : FiberBook → FiberCode → Prop} (hR : ∀ b b' c, b'.core = b.core → R b c → R b' c) :
    TameStable fun h => Steady w P h ∧ R (h.book f) (h.codeOf f) :=
  fun _ _ ⟨hs, hr⟩ ht => ⟨hs.setData ht, hR _ _ _ (ht.core f) hr⟩

theorem TameStable.core {w : Set Nat} {P : Nat → Option Pause} {f : Nat}
    (R : FiberBook → FiberCode → Prop) :
    TameStable fun h => Steady w P h ∧ R (h.book f).core (h.codeOf f) :=
  fun h d ⟨hs, hr⟩ ht => ⟨hs.setData ht, by rw [Heap.book_setData, ht.core f]; exact hr⟩

namespace Machine

variable {n : Nat} {Q : Heap → Prop}

/-- A quiet release only changes the plain data tamely, and cannot panic. -/
theorem release_quiet (hQ : TameStable Q) (r : Release) :
    ⦃fun h => ⌜Q h ∧ r.quiet = true⌝⦄ release n r
    ⦃post⟨fun _ h => ⌜Q h⌝, fun e h => ⌜e.Leaves (fun _ => False) h⌝⟩⦄ := by
  cases n with
  | zero => rw [release]; mvcgen
  | succ n =>
    cases r with
    | callback | removeTask | disposeGroup =>
      -- these run callbacks and are not quiet
      rw [release]
      mvcgen
      all_goals simp_all [Release.quiet]
    | unwatch w =>
      rw [release]
      mvcgen with
      | vc1 h hpre => exact hQ h _ hpre.1 (Data.tame_unwatch w)
    | detach g key =>
      rw [release]
      mvcgen with
      | vc1 h hpre => exact hQ h _ hpre.1 (Data.tame_groupDetach g key)
    | unobserve f key =>
      rw [release]
      mvcgen with
      | vc1 h hpre => exact hQ h _ hpre.1 (Data.tame_removeObserver f key)
    | cancelTimer t =>
      rw [release]
      mvcgen with
      | vc1 h hpre => exact hQ h _ hpre.1 (Data.tame_cancelTimer t)
    | dropFinalizer r key =>
      rw [release]
      mvcgen with
      | vc1 h hpre => exact hQ h _ hpre.1 (Data.tame_dropFinalizer r key)

/-- Disposing an inert disposable only changes the plain data tamely, and cannot panic. -/
theorem dispose_quiet (hQ : TameStable Q) (k : Nat) :
    ⦃fun h => ⌜Q h ∧ h.data.inert k⌝⦄ dispose n k
    ⦃post⟨fun _ h => ⌜Q h⌝, fun e h => ⌜e.Leaves (fun _ => False) h⌝⟩⦄ := by
  cases n with
  | zero => rw [dispose]; mvcgen
  | succ n =>
    have hr := fun r => release_quiet (n := n) hQ r
    rw [dispose]
    mvcgen [hr] with
    | vc1 h hpre _ => exact hQ h _ hpre.1 (Data.tame_takeDisposal k)
    | vc2 h hpre r hr =>
      exact ⟨hQ h _ hpre.1 (Data.tame_takeDisposal k), Data.quiet_takeDisposal hpre.2 hr⟩

theorem groupAdd_quiet (hQ : TameStable Q) (g m : Nat) :
    ⦃fun h => ⌜Q h ∧ h.data.inert m⌝⦄ groupAdd n g m
    ⦃post⟨fun r h => ⌜Q h ∧ h.data.inert r ∧ h.data.inert m⌝,
      fun e h => ⌜e.Leaves (fun _ => False) h⌝⟩⦄ := by
  cases n with
  | zero => rw [groupAdd]; mvcgen
  | succ n =>
    have hd := fun k => dispose_quiet (n := n) (hQ.and_inert m) k
    rw [groupAdd]
    mvcgen [hd] with
    | vc1 h hpre key _ =>
      have h1 := Data.tame_groupAdd (d := h.data) g m
      have h2 := Data.tame_newDisposable (d := (h.data.groupAdd g m).2) (some (.detach g key))
      refine ⟨hQ _ _ (hQ h _ hpre.1 h1) (by simpa using h2), by simp [Data.inert_newDisposable,
        Release.quiet], by simpa using h2.inert m (h1.inert m hpre.2)⟩
    | vc2 h hpre _ =>
      have h1 := Data.tame_groupAdd (d := h.data) g m
      exact ⟨⟨hQ h _ hpre.1 h1, h1.inert m hpre.2⟩, h1.inert m hpre.2⟩
    | vc3 h₀ _ _ _ h hpost =>
      have h2 := Data.tame_newDisposable (d := h.data) none
      exact ⟨hQ h _ hpost.1 h2, by simp [Data.inert_newDisposable], h2.inert m hpost.2⟩

end Machine

end FiberEffects
