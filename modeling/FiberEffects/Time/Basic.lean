namespace FiberEffects

def maxNanos : Nat := Nat.pow 2 64 - 1

/-- An instant: nanoseconds since an origin, kept below `2 ^ 64`. -/
structure Time where
  nanos : Nat
  bounded : nanos ≤ maxNanos
  deriving DecidableEq

/-- A span of time in nanoseconds. -/
structure Duration where
  nanos : Nat
  deriving DecidableEq, Inhabited

namespace Duration

def max : Duration := ⟨maxNanos * 1000000000 + 999999999⟩

def zero : Duration := ⟨0⟩

end Duration

namespace Time

def ofNat (n : Nat) : Time := ⟨Nat.min n maxNanos, Nat.min_le_right _ _⟩

def zero : Time := ofNat 0

def top : Time := ofNat maxNanos

instance : Inhabited Time := ⟨zero⟩

instance : LT Time := ⟨fun a b => a.nanos < b.nanos⟩
instance : LE Time := ⟨fun a b => a.nanos ≤ b.nanos⟩
instance (a b : Time) : Decidable (a < b) := inferInstanceAs (Decidable (a.nanos < b.nanos))
instance (a b : Time) : Decidable (a ≤ b) := inferInstanceAs (Decidable (a.nanos ≤ b.nanos))

def ofMillis (ms : Nat) : Time := ofNat (ms * 1000000)

def ofSecs (s : Nat) : Time := ofNat (s * 1000000000)

def millis (t : Time) : Nat := t.nanos / 1000000

def addNanos (t : Time) (n : Nat) : Time := ofNat (t.nanos + n)

def subNanos (t : Time) (n : Nat) : Time := ofNat (t.nanos - n)

def add (t : Time) (d : Duration) : Time := ofNat (t.nanos + d.nanos)

def since (t earlier : Time) : Duration := ⟨t.nanos - earlier.nanos⟩

def later (a b : Time) : Time := if a.nanos ≤ b.nanos then b else a

def pad3 (n : Nat) : String :=
  let s := toString n
  String.ofList (List.replicate (3 - s.length) '0') ++ s

def display (t : Time) : String :=
  let n := t.nanos
  if 1000000000 ≤ n then s!"{n / 1000000000}.{pad3 (n / 1000000 % 1000)}s"
  else if 1000000 ≤ n then s!"{n / 1000000}ms"
  else if 1000 ≤ n then s!"{n / 1000}us"
  else s!"{n}ns"

def debug (t : Time) : String := s!"Time({t.nanos}ns)"

theorem eq_of_nanos_eq {a b : Time} (h : a.nanos = b.nanos) : a = b := by
  cases a
  cases b
  cases h
  rfl

theorem ofNat_nanos_of_le {n : Nat} (h : n ≤ maxNanos) : (ofNat n).nanos = n :=
  Nat.min_eq_left h

theorem nanos_le (t : Time) : t.nanos ≤ maxNanos := t.bounded

theorem ofNat_nanos (t : Time) : ofNat t.nanos = t := by
  cases t with
  | mk n h => simp [ofNat, Nat.min_eq_left h]

end Time

end FiberEffects
