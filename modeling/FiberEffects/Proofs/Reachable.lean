import FiberEffects.Proofs.Contracts

open Std.Do

namespace FiberEffects

/-- The heaps the host reaches: one with no fibers yet; what a run of a program leaves, unless it
ran out of fuel; and a change of the plain data that the fibers' loops cannot see. -/
inductive Reachable : Heap → Prop
  | init {h : Heap} (hf : h.data.fibers = #[]) (hc : h.code = #[]) : Reachable h
  | run {α : Type} {h : Heap} (n : Nat) (q : Cmd α) (hr : Reachable h)
      (hfuel : (Machine.exec (Machine.runCmd n q) h).1 ≠ .error .outOfFuel) :
      Reachable (Machine.exec (Machine.runCmd n q) h).2
  | tame {h : Heap} {d : Data} (hr : Reachable h) (ht : h.data.Tame d) : Reachable (h.setData d)

theorem FiberOk.empty : FiberOk default {} := by
  refine ⟨fun r => ?_, fun _ => ⟨rfl, rfl, rfl⟩, fun h => ?_, fun h => ?_, fun _ h => ?_⟩
  · cases r <;> rfl
  -- it is not done, not waiting and not unwinding
  all_goals cases h

namespace Steady

variable {w : Set Nat} {P : Nat → Option Pause} {h : Heap} {f : Nat}

/-- A heap with no fibers is steady, with no window and no pause. -/
theorem of_empty (hf : h.data.fibers = #[]) (hc : h.code = #[]) : Steady ∅ (fun _ => none) h := by
  have hb : ∀ g, h.book g = default := fun g => by simp [Heap.book, Data.fiber, hf]
  have hcode : ∀ g, h.codeOf g = {} := fun g => by simp [Heap.codeOf, hc]
  refine ⟨⟨by simp [hf, hc], fun g => ?_, fun g hg => ?_, fun g s hsus => ?_⟩, ?_,
    fun g p hp => by cases hp⟩
  · rw [hb, hcode]; exact FiberOk.empty
  · simp [hf] at hg
  · rw [hb] at hsus; cases hsus
  · -- no slot has started
    have hst : (default : FiberBook).started = false := rfl
    ext g
    simp [Heap.windows, hb, FiberBook.inWindow, FiberBook.atRest, hst]

theorem exec_runCmd {α : Type} (hs : Steady w P h) (n : Nat) (q : Cmd α)
    (hfuel : (Machine.exec (Machine.runCmd n q) h).1 ≠ .error .outOfFuel) :
    Steady w P (Machine.exec (Machine.runCmd n q) h).2 := by
  have hx := Machine.exec_of_triple ((Machine.contracts n).runCmd q w P) h hs
  rcases hexec : Machine.exec (Machine.runCmd n q) h with ⟨e | a, h'⟩ <;> rw [hexec] at hx hfuel
  · cases e with
    | panic m => exact hx
    | outOfFuel => exact absurd rfl hfuel
  · exact hx

end Steady

namespace Reachable

variable {h : Heap} {f : Nat}

theorem steady (hr : Reachable h) : Steady ∅ (fun _ => none) h := by
  induction hr with
  | init hf hc => exact .of_empty hf hc
  | @run α h n q _ hfuel ih => exact ih.exec_runCmd n q hfuel
  | tame _ ht ih => exact ih.setData ht

end Reachable

end FiberEffects
