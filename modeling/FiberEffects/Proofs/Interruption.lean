import FiberEffects.Proofs.HandlerFrames
import FiberEffects.Proofs.Reachable

namespace FiberEffects

namespace FiberBook

variable {b : FiberBook}

end FiberBook

namespace FiberOk

variable {b : FiberBook} {c : FiberCode} {s : Suspension}

end FiberOk

namespace Machine

variable {h : Heap} {n f : Nat} {r : FiberId} {s : Suspension}

theorem exec_interruptAs_recorded (r : FiberId) (hx : (h.book f).exit = none)
    (hquiet : (h.book f).running = true ∨ (h.book f).flags.current.interruptible = false) :
    exec (interruptAs (n + 1) f r) h = (.ok (), h.updateBook f fun b =>
      { b with interruptCause := b.interruptCause.combine (.interrupted (h.data.fiberUnixTime f) r) }) := by
  -- recording leaves the loop state and the flags, so the fiber is not taken out of a future
  have hguard : ∀ b : FiberBook, b.running = (h.book f).running → b.flags = (h.book f).flags →
      (b.started && !b.running && b.interruptsNow) = false := by
    intro b hrun hfl
    rcases hquiet with hq | hq
    · simp [hrun, hq]
    · simp [FiberBook.interruptsNow, hfl, hq]
  rw [interruptAs]
  simp only [exec_bind, exec_book, hx, Option.isSome_none, Bool.false_eq_true, if_false,
    exec_unixTime, exec_modifyBook, Heap.book_updateBook_same]
  split <;>
  · rw [if_neg fun hc => Bool.false_ne_true ((hguard _ (by rfl) (by rfl)).symm.trans hc)]
    rfl

end Machine

namespace Steady

variable {w : Set Nat} {P : Nat → Option Pause} {h : Heap} {f : Nat}

open Machine in
theorem ask (hs : Steady w P h) (hP : P f = some .calm) (n : Nat) (r : FiberId) :
    exec (interruptAs (n + 1) f r) h = (.ok (), h.updateBook f fun b =>
      { b with interruptCause := b.interruptCause.combine (.interrupted (h.data.fiberUnixTime f) r) }) ∧
    Steady w (Function.update P f (some .asked)) (h.updateBook f fun b =>
      { b with interruptCause := b.interruptCause.combine (.interrupted (h.data.fiberUnixTime f) r) }) := by
  have hcalm := hs.held f .calm hP
  have hrun : (h.book f).running = true := hcalm.1.1
  refine ⟨exec_interruptAs_recorded r hcalm.1.2.1 (.inl hrun), ?_⟩
  have hs' := hs.request (x := .interrupted (h.data.fiberUnixTime f) r)
    fun _ hr => absurd (hrun.symm.trans hr) (by decide)
  refine hs'.hold ?_
  rw [Heap.book_updateBook_self _ (hs.lt_of_running hrun), Heap.codeOf_updateBook]
  exact ⟨hcalm.1, hcalm.2, by rw [Cause.isEmpty_combine]; exact Bool.and_false _⟩

end Steady

namespace Reachable

variable {h : Heap} {f : Nat}

end Reachable

end FiberEffects
