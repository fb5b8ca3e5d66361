import FiberEffects.Proofs.CauseMonoid
import FiberEffects.Resource.Scope

namespace FiberEffects

namespace Effect

def failure? : Exit → Option (Cause Json)
  | .ok _ => none
  | .error c => some c

@[simp] theorem failure?_ok (v : Val) : failure? (.ok v) = none := rfl

@[simp] theorem failure?_error (c : Cause Json) : failure? (.error c) = some c := rfl

@[simp] theorem afterFinalizer_ok (x : Exit) (v : Val) : afterFinalizer x (.ok v) = x := by
  cases x <;> rfl

theorem foldl_afterFinalizer (x : Exit) (results : List Exit) :
    results.foldl afterFinalizer x =
      match (x :: results).filterMap failure? with
      | [] => x
      | c :: cs => .error (cs.foldl Cause.combine c) := by
  induction results generalizing x with
  | nil => cases x <;> rfl
  | cons r rs ih =>
    rw [List.foldl_cons, ih]
    -- a success passes the exit on; a failure starts the combination or joins it
    rcases x with p | v <;> rcases r with c | w
    · simp [afterFinalizer]
    · simp [List.filterMap_cons]
    · simp [afterFinalizer, List.filterMap_cons]
    · simp [List.filterMap_cons]

theorem items_foldl_combine (c : Cause Json) (cs : List (Cause Json)) :
    (cs.foldl Cause.combine c).items = (c :: cs).flatMap Cause.items := by
  induction cs generalizing c with
  | nil => simp
  | cons c' cs ih => simp [ih, Cause.items_combine]

theorem closing_exit_lossless (x : Exit) (results : List Exit) :
    ((x :: results).filterMap failure? = [] → results.foldl afterFinalizer x = x) ∧
    (∀ c cs, (x :: results).filterMap failure? = c :: cs →
      ∃ c', results.foldl afterFinalizer x = .error c' ∧
        c'.items = (c :: cs).flatMap Cause.items) := by
  rw [foldl_afterFinalizer]
  refine ⟨fun h => by rw [h], fun c cs h => ?_⟩
  rw [h]
  exact ⟨_, rfl, items_foldl_combine c cs⟩

end Effect

end FiberEffects
