import FiberEffects.Cause.Basic

namespace FiberEffects

namespace Cause

variable {ε ε' : Type}

def ofExcept (t : Time) : Except String ε → Cause ε
  | .ok e => .expected t e
  | .error d => .unexpected t d

@[simp] theorem ofExcept_ok (t : Time) (e : ε) : ofExcept t (.ok e) = .expected t e := rfl

@[simp] theorem ofExcept_error (t : Time) (d : String) :
    (ofExcept t (.error d) : Cause ε) = .unexpected t d := rfl

def mapOrDefect (f : ε → Except String ε') : Cause ε → Cause ε'
  | .empty => .empty
  | .expected t e => ofExcept t (f e)
  | .unexpected t d => .unexpected t d
  | .interrupted t fib => .interrupted t fib
  | .seq l r => .seq (l.mapOrDefect f) (r.mapOrDefect f)
  | .par l r => .par (l.mapOrDefect f) (r.mapOrDefect f)
  | .traced c lbl => .traced (c.mapOrDefect f) lbl

/-- `map` is the traversal that refuses no error. -/
theorem mapOrDefect_ok (f : ε → ε') (c : Cause ε) :
    c.mapOrDefect (fun e => .ok (f e)) = c.map f := by
  induction c with
  | seq l r ihl ihr => simp [mapOrDefect, map, ihl, ihr]
  | par l r ihl ihr => simp [mapOrDefect, map, ihl, ihr]
  | traced c lbl ih => simp [mapOrDefect, map, ih]
  | _ => rfl

end Cause

/-- The error types of a program: each has a tag, the run-time identity of the type, which can
be compared; the type the tag stands for; and the name a refused downcast reports. -/
structure ErrorTypes where
  Tag : Type
  [decEq : DecidableEq Tag]
  denote : Tag → Type
  name : Tag → String

namespace ErrorTypes

attribute [instance] ErrorTypes.decEq

variable (U : ErrorTypes)

abbrev AnyError := Σ t : U.Tag, U.denote t

variable {U}

def AnyError.downcast (t : U.Tag) : U.AnyError → Option (U.denote t)
  | ⟨t', e⟩ => if h : t' = t then some (h ▸ e) else none

@[simp] theorem AnyError.downcast_self (t : U.Tag) (e : U.denote t) :
    AnyError.downcast t ⟨t, e⟩ = some e := by
  simp [downcast]

theorem AnyError.downcast_of_ne {t t' : U.Tag} (h : t' ≠ t) (e : U.denote t') :
    AnyError.downcast t ⟨t', e⟩ = none := by
  simp [downcast, h]

variable (U)

def mismatch (t : U.Tag) : String := "expected error is not a " ++ U.name t

def restoreError (t : U.Tag) (e : U.AnyError) : Except String (U.denote t) :=
  match e.downcast t with
  | some v => .ok v
  | none => .error (U.mismatch t)

def eraseCause (t : U.Tag) (c : Cause (U.denote t)) : Cause U.AnyError := c.map (Sigma.mk t)

def restoreCause (t : U.Tag) (c : Cause U.AnyError) : Cause (U.denote t) :=
  c.mapOrDefect (U.restoreError t)

variable {U}

@[simp] theorem restoreError_self (t : U.Tag) (e : U.denote t) :
    U.restoreError t ⟨t, e⟩ = .ok e := by
  simp [restoreError]

theorem restoreError_of_ne {t t' : U.Tag} (h : t' ≠ t) (e : U.denote t') :
    U.restoreError t ⟨t', e⟩ = .error (U.mismatch t) := by
  simp [restoreError, AnyError.downcast_of_ne h]

end ErrorTypes

end FiberEffects
