namespace FiberEffects

/-- A base value and the overrides pushed above it, the last pushed first. -/
structure ScopedStack (α : Type) where
  base : α
  overrides : List α := []
  deriving Inhabited

namespace ScopedStack

variable {α : Type}

def new (base : α) : ScopedStack α := ⟨base, []⟩

def current (s : ScopedStack α) : α :=
  match s.overrides with
  | [] => s.base
  | x :: _ => x

def push (s : ScopedStack α) (x : α) : ScopedStack α := { s with overrides := x :: s.overrides }

def pop (s : ScopedStack α) : Option α × ScopedStack α :=
  match s.overrides with
  | [] => (none, s)
  | x :: rest => (some x, { s with overrides := rest })

def depth (s : ScopedStack α) : Nat := s.overrides.length

@[simp] theorem current_push (s : ScopedStack α) (x : α) : (s.push x).current = x := rfl

@[simp] theorem pop_push (s : ScopedStack α) (x : α) : (s.push x).pop = (some x, s) := by
  cases s; rfl

@[simp] theorem depth_push (s : ScopedStack α) (x : α) : (s.push x).depth = s.depth + 1 := rfl

@[simp] theorem depth_pop (s : ScopedStack α) : s.pop.2.depth = s.depth - 1 := by
  unfold pop depth
  split <;> simp_all

end ScopedStack

end FiberEffects
