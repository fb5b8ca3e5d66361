import FiberEffects.Host.Run
import FiberEffects.Proofs.Primitives

namespace FiberEffects

namespace Schedule

def runs : Schedule → ℕ∞
  | .recurs n => n
  | .spaced _ => ⊤
  | .exponential _ _ r => r + 1
  | .take s m => if (m : ℕ∞) ≤ s.runs then m else s.runs

variable (p : Schedule) (st : ScheduleState) (input : ScheduleInput)

end Schedule

mutual

/-- `Repeats B runAfter Q n E`: whatever each run gives and whatever the heap answers, `E` runs
`runAfter pause` exactly `n` times, each for the pause it asks, and then reaches an effect in
`Q`. Kept builders are looked up in `B`, where a builder kept on the way sits under its number. -/
inductive Repeats (B : Nat → Option (Val → Cmd Effect)) (runAfter : Option Duration → Effect)
    (Q : Effect → Prop) : Nat → Effect → Prop
  | reach {E : Effect} : Q E → Repeats B runAfter Q 0 E
  | run {n : Nat} {pause : Option Duration} {k : Val → Cmd Effect} :
      (∀ v, RepeatsAfter B runAfter Q n (k v)) →
      Repeats B runAfter Q (n + 1) (Effect.flatMap (runAfter pause) k)
  | suspend {n : Nat} {build : Cmd Effect} :
      RepeatsAfter B runAfter Q n build → Repeats B runAfter Q n (Effect.suspend build)
  | apply {n self : Nat} {arg : Val} {g : Val → Cmd Effect} :
      B self = some g → RepeatsAfter B runAfter Q n (g arg) →
      Repeats B runAfter Q n (Effect.apply self arg)

/-- `RepeatsAfter B runAfter Q n p`: whatever the heap answers, the program `p` builds an effect
that repeats as `Repeats` says. -/
inductive RepeatsAfter (B : Nat → Option (Val → Cmd Effect)) (runAfter : Option Duration → Effect)
    (Q : Effect → Prop) : Nat → Cmd Effect → Prop
  | done {n : Nat} {E : Effect} : Repeats B runAfter Q n E → RepeatsAfter B runAfter Q n (Prog.done E)
  | call {n : Nat} {r : Request} {k : Val → Cmd Effect} :
      (∀ w, RepeatsAfter B runAfter Q n (k w)) → RepeatsAfter B runAfter Q n (Prog.call r k)
  | keep {n : Nat} {g : Nat → Val → Cmd Effect} {k : Val → Cmd Effect} :
      (∀ self, B self = some (g self) → RepeatsAfter B runAfter Q n (k (.nat self))) →
      RepeatsAfter B runAfter Q n (Prog.call (.keepBuilder g) k)

end

variable {s : SchedulerRef} {e : Effect} {policy : Schedule} {B : Nat → Option (Val → Cmd Effect)}
  {self : Nat} {Q : Effect → Prop}

end FiberEffects
