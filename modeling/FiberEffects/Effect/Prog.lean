namespace FiberEffects

/-- A program issuing requests of type `σ`, answered by values of type `ω`, returning `α`. -/
inductive Prog (σ ω α : Type) where
  | done (a : α)
  | panic (message : String)
  | call (request : σ) (next : ω → Prog σ ω α)

namespace Prog

variable {σ ω α β : Type}

def bind : Prog σ ω α → (α → Prog σ ω β) → Prog σ ω β
  | .done a, f => f a
  | .panic m, _ => .panic m
  | .call r k, f => .call r fun w => bind (k w) f

instance : Monad (Prog σ ω) where
  pure := .done
  bind := bind

def ask (r : σ) : Prog σ ω ω := .call r .done

@[simp] theorem done_bind (a : α) (f : α → Prog σ ω β) : bind (.done a) f = f a := rfl

@[simp] theorem panic_bind (m : String) (f : α → Prog σ ω β) : bind (.panic m) f = .panic m := rfl

@[simp] theorem call_bind (r : σ) (k : ω → Prog σ ω α) (f : α → Prog σ ω β) :
    bind (.call r k) f = .call r fun w => bind (k w) f := rfl

theorem bind_done (p : Prog σ ω α) : bind p .done = p := by
  induction p with
  | done a => rfl
  | panic m => rfl
  | call r k ih => simp [bind, ih]

end Prog

end FiberEffects
