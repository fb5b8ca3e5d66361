import FiberEffects.Cause.Erasure

namespace FiberEffects

namespace Cause

variable {ε ε' ε'' : Type}

@[simp] theorem failures_expected (t : Time) (e : ε) : (expected t e).failures = [e] := rfl

@[simp] theorem failures_seq (l r : Cause ε) : (seq l r).failures = l.failures ++ r.failures := by
  simp [failures, leaves]

@[simp] theorem failures_par (l r : Cause ε) : (par l r).failures = l.failures ++ r.failures := by
  simp [failures, leaves]

@[simp] theorem failures_traced (c : Cause ε) (lbl : String) :
    (traced c lbl).failures = c.failures := rfl

theorem mapOrDefect_map (g : ε → ε') (f : ε' → Except String ε'') (c : Cause ε) :
    (c.map g).mapOrDefect f = c.mapOrDefect (f ∘ g) := by
  induction c with
  | seq l r ihl ihr => simp [map, mapOrDefect, ihl, ihr]
  | par l r ihl ihr => simp [map, mapOrDefect, ihl, ihr]
  | traced c lbl ih => simp [map, mapOrDefect, ih]
  | _ => rfl

theorem map_mapOrDefect {f : ε → Except String ε'} {g : ε' → ε} {c : Cause ε}
    (h : ∀ e ∈ c.failures, ∃ v, f e = .ok v ∧ g v = e) : (c.mapOrDefect f).map g = c := by
  induction c with
  | expected t e =>
    obtain ⟨v, hv, rfl⟩ := h e (by simp)
    simp [mapOrDefect, hv, map]
  | seq l r ihl ihr =>
    simp only [failures_seq, List.mem_append] at h
    simp [mapOrDefect, map, ihl fun e he => h e (.inl he), ihr fun e he => h e (.inr he)]
  | par l r ihl ihr =>
    simp only [failures_par, List.mem_append] at h
    simp [mapOrDefect, map, ihl fun e he => h e (.inl he), ihr fun e he => h e (.inr he)]
  | traced c lbl ih => simp [mapOrDefect, map, ih h]
  | _ => rfl

def asDefects (d : String) : Cause ε → Cause ε'
  | .empty => .empty
  | .expected t _ => .unexpected t d
  | .unexpected t m => .unexpected t m
  | .interrupted t fib => .interrupted t fib
  | .seq l r => .seq (l.asDefects d) (r.asDefects d)
  | .par l r => .par (l.asDefects d) (r.asDefects d)
  | .traced c lbl => .traced (c.asDefects d) lbl

theorem mapOrDefect_error (d : String) (c : Cause ε) :
    c.mapOrDefect (fun _ => (.error d : Except String ε')) = c.asDefects d := by
  induction c with
  | seq l r ihl ihr => simp [mapOrDefect, asDefects, ihl, ihr]
  | par l r ihl ihr => simp [mapOrDefect, asDefects, ihl, ihr]
  | traced c lbl ih => simp [mapOrDefect, asDefects, ih]
  | _ => rfl

end Cause

namespace ErrorTypes

open Cause

variable {U : ErrorTypes}

theorem restoreCause_eraseCause (t : U.Tag) (c : Cause (U.denote t)) :
    U.restoreCause t (U.eraseCause t c) = c := by
  have hleaf : (U.restoreError t ∘ Sigma.mk t) = fun e => .ok (id e) :=
    funext fun e => restoreError_self t e
  rw [restoreCause, eraseCause, mapOrDefect_map, hleaf, mapOrDefect_ok, map_id]

theorem restoreCause_eraseCause_of_ne {t t' : U.Tag} (h : t' ≠ t) (c : Cause (U.denote t')) :
    U.restoreCause t (U.eraseCause t' c) = c.asDefects (U.mismatch t) := by
  have hleaf : (U.restoreError t ∘ Sigma.mk t') = fun _ => .error (U.mismatch t) :=
    funext fun e => restoreError_of_ne h e
  rw [restoreCause, eraseCause, mapOrDefect_map, hleaf, mapOrDefect_error]

variable (U)

def ErasedAt (t : U.Tag) (c : Cause U.AnyError) : Prop := ∀ e ∈ c.failures, e.1 = t

instance (t : U.Tag) : DecidablePred (U.ErasedAt t) := fun c =>
  inferInstanceAs (Decidable (∀ e ∈ c.failures, e.1 = t))

variable {U}

theorem erasedAt_eraseCause (t : U.Tag) (c : Cause (U.denote t)) :
    U.ErasedAt t (U.eraseCause t c) := by
  simp [ErasedAt, eraseCause]

theorem erasedAt_of_failures_eq_nil {t : U.Tag} {c : Cause U.AnyError} (h : c.failures = []) :
    U.ErasedAt t c := by
  simp [ErasedAt, h]

@[simp] theorem erasedAt_combine {t : U.Tag} {a b : Cause U.AnyError} :
    U.ErasedAt t (combine a b) ↔ U.ErasedAt t a ∧ U.ErasedAt t b := by
  simp [ErasedAt, or_imp, forall_and]

theorem eraseCause_restoreCause {t : U.Tag} {c : Cause U.AnyError} (h : U.ErasedAt t c) :
    U.eraseCause t (U.restoreCause t c) = c := by
  apply map_mapOrDefect
  rintro ⟨t', v⟩ he
  obtain rfl : t' = t := h _ he
  exact ⟨v, restoreError_self t' v, rfl⟩

theorem erasedAt_iff_exists {t : U.Tag} {c : Cause U.AnyError} :
    U.ErasedAt t c ↔ ∃ c', U.eraseCause t c' = c := by
  constructor
  · intro h
    exact ⟨U.restoreCause t c, eraseCause_restoreCause h⟩
  · rintro ⟨c', rfl⟩
    exact erasedAt_eraseCause t c'

theorem eraseCause_injective (t : U.Tag) : Function.Injective (U.eraseCause t) :=
  Function.LeftInverse.injective (restoreCause_eraseCause t)

theorem eraseCause_restoreCause_of_subsingleton [Subsingleton U.Tag] (t : U.Tag)
    (c : Cause U.AnyError) : U.eraseCause t (U.restoreCause t c) = c :=
  eraseCause_restoreCause fun e _ => Subsingleton.elim e.1 t

/-- Type erasure of causes round-trips at the cause's own type and keeps its shape at another. -/
theorem erasure_round_trips (U : ErrorTypes) (t : U.Tag) :
    (∀ c : Cause (U.denote t), U.restoreCause t (U.eraseCause t c) = c) ∧
    (∀ (t' : U.Tag) (c : Cause (U.denote t')), t' ≠ t →
      U.restoreCause t (U.eraseCause t' c) = c.asDefects (U.mismatch t)) ∧
    (∀ c : Cause U.AnyError, U.ErasedAt t c → U.eraseCause t (U.restoreCause t c) = c) :=
  ⟨restoreCause_eraseCause t, fun _ c h => restoreCause_eraseCause_of_ne h c,
    fun _ h => eraseCause_restoreCause h⟩

def textOrByte : ErrorTypes where
  Tag := Bool
  denote b := cond b String UInt8
  name b := cond b "alloc::string::String" "u8"

theorem erasure_round_trips_text :
    textOrByte.restoreCause true (textOrByte.eraseCause true
        (combine (expected (Time.ofMillis 1) "boom") (unexpected (Time.ofMillis 2) "x"))) =
      combine (expected (Time.ofMillis 1) "boom") (unexpected (Time.ofMillis 2) "x") ∧
    (false ≠ true ∧ textOrByte.restoreCause true
        (textOrByte.eraseCause false (expected (Time.ofMillis 4) (1 : UInt8))) =
      (expected (Time.ofMillis 4) (1 : UInt8) : Cause UInt8).asDefects
        (textOrByte.mismatch true)) ∧
    (textOrByte.ErasedAt true (combine (textOrByte.eraseCause true
        (expected (Time.ofMillis 1) "boom")) (interrupted (Time.ofMillis 3) FiberId.none)) ∧
      textOrByte.eraseCause true (textOrByte.restoreCause true (combine (textOrByte.eraseCause
        true (expected (Time.ofMillis 1) "boom")) (interrupted (Time.ofMillis 3) FiberId.none))) =
      combine (textOrByte.eraseCause true (expected (Time.ofMillis 1) "boom"))
        (interrupted (Time.ofMillis 3) FiberId.none)) := by
  obtain ⟨hsame, hother, hflight⟩ := erasure_round_trips textOrByte true
  have herased : textOrByte.ErasedAt true (combine (textOrByte.eraseCause true
      (expected (Time.ofMillis 1) "boom")) (interrupted (Time.ofMillis 3) FiberId.none)) :=
    erasedAt_combine.2 ⟨erasedAt_eraseCause _ _, erasedAt_of_failures_eq_nil rfl⟩
  exact ⟨hsame _, ⟨Bool.false_ne_true, hother false _ Bool.false_ne_true⟩, herased,
    hflight _ herased⟩

end ErrorTypes

end FiberEffects
