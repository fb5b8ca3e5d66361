import FiberEffects.Fiber.Id

namespace FiberEffects

/-- Why an effect failed. -/
inductive Cause (ε : Type) where
  | empty
  | expected (time : Time) (error : ε)
  | unexpected (time : Time) (defect : String)
  | interrupted (time : Time) (fiber : FiberId)
  | seq (left right : Cause ε)
  | par (left right : Cause ε)
  | traced (cause : Cause ε) (label : String)
  deriving Inhabited

namespace Cause

variable {ε ε' ε'' : Type}

def combine : Cause ε → Cause ε → Cause ε
  | .empty, b => b
  | a, .empty => a
  | a, b => .seq a b

def isEmpty : Cause ε → Bool
  | .empty => true
  | _ => false

def leaves : Cause ε → List (Cause ε)
  | .empty => []
  | .seq l r => l.leaves ++ r.leaves
  | .par l r => l.leaves ++ r.leaves
  | .traced c _ => c.leaves
  | c => [c]

def error? : Cause ε → Option ε
  | .expected _ e => some e
  | _ => none

def defect? : Cause ε → Option String
  | .unexpected _ d => some d
  | _ => none

def interruptor? : Cause ε → Option FiberId
  | .interrupted _ f => some f
  | _ => none

def failures (c : Cause ε) : List ε := c.leaves.filterMap error?

def defects (c : Cause ε) : List String := c.leaves.filterMap defect?

def interruptors (c : Cause ε) : List FiberId := c.leaves.filterMap interruptor?

def isInterrupted (c : Cause ε) : Bool := !c.interruptors.isEmpty

def noteLeaf (seen : Bool × Bool) : Cause ε → Bool × Bool
  | .interrupted _ _ => (true, seen.2)
  | _ => (seen.1, true)

def isInterruptedOnly (c : Cause ε) : Bool :=
  let seen := c.leaves.foldl noteLeaf (false, false)
  seen.1 && !seen.2

def map (f : ε → ε') : Cause ε → Cause ε'
  | .empty => .empty
  | .expected t e => .expected t (f e)
  | .unexpected t d => .unexpected t d
  | .interrupted t fib => .interrupted t fib
  | .seq l r => .seq (l.map f) (r.map f)
  | .par l r => .par (l.map f) (r.map f)
  | .traced c lbl => .traced (c.map f) lbl

/-- Maps every expected error with an action, from left to right, keeping the shape. -/
def mapM {m : Type → Type} [Monad m] (f : ε → m ε') : Cause ε → m (Cause ε')
  | .empty => pure .empty
  | .expected t e => .expected t <$> f e
  | .unexpected t d => pure (.unexpected t d)
  | .interrupted t fib => pure (.interrupted t fib)
  | .seq l r => do
    let l' ← l.mapM f
    let r' ← r.mapM f
    pure (.seq l' r')
  | .par l r => do
    let l' ← l.mapM f
    let r' ← r.mapM f
    pure (.par l' r')
  | .traced c lbl => do
    let c' ← c.mapM f
    pure (.traced c' lbl)

@[simp] theorem empty_combine (c : Cause ε) : combine .empty c = c := by cases c <;> rfl

@[simp] theorem combine_empty (c : Cause ε) : combine c .empty = c := by cases c <;> rfl

theorem combine_of_ne {a b : Cause ε} (ha : a.isEmpty = false) (hb : b.isEmpty = false) :
    combine a b = .seq a b := by
  cases a <;> cases b <;> simp_all [combine, isEmpty]

@[simp] theorem isEmpty_combine (a b : Cause ε) : (a.combine b).isEmpty = (a.isEmpty && b.isEmpty) := by
  cases a <;> cases b <;> rfl

@[simp] theorem leaves_combine (a b : Cause ε) :
    (combine a b).leaves = a.leaves ++ b.leaves := by
  cases a <;> cases b <;> simp [combine, leaves]

@[simp] theorem failures_combine (a b : Cause ε) :
    (combine a b).failures = a.failures ++ b.failures := by
  simp [failures]

@[simp] theorem defects_combine (a b : Cause ε) :
    (combine a b).defects = a.defects ++ b.defects := by
  simp [defects]

@[simp] theorem interruptors_combine (a b : Cause ε) :
    (combine a b).interruptors = a.interruptors ++ b.interruptors := by
  simp [interruptors]

@[simp] theorem map_id (c : Cause ε) : c.map id = c := by
  induction c with
  | seq l r ihl ihr => simp [map, ihl, ihr]
  | par l r ihl ihr => simp [map, ihl, ihr]
  | traced c lbl ih => simp [map, ih]
  | _ => rfl

theorem map_map (f : ε → ε') (g : ε' → ε'') (c : Cause ε) : (c.map f).map g = c.map (g ∘ f) := by
  induction c with
  | seq l r ihl ihr => simp [map, ihl, ihr]
  | par l r ihl ihr => simp [map, ihl, ihr]
  | traced c lbl ih => simp [map, ih]
  | _ => rfl

/-- Mapping the errors maps each leaf, in place. -/
theorem leaves_map (f : ε → ε') (c : Cause ε) : (c.map f).leaves = c.leaves.map (map f) := by
  induction c with
  | empty => rfl
  | seq l r ihl ihr => simp [map, leaves, ihl, ihr]
  | par l r ihl ihr => simp [map, leaves, ihl, ihr]
  | traced c lbl ih => simp [map, leaves, ih]
  | _ => rfl

@[simp] theorem error?_map (f : ε → ε') (c : Cause ε) : (c.map f).error? = c.error?.map f := by
  cases c <;> rfl

@[simp] theorem defect?_map (f : ε → ε') (c : Cause ε) : (c.map f).defect? = c.defect? := by
  cases c <;> rfl

@[simp] theorem interruptor?_map (f : ε → ε') (c : Cause ε) :
    (c.map f).interruptor? = c.interruptor? := by
  cases c <;> rfl

@[simp] theorem failures_map (f : ε → ε') (c : Cause ε) : (c.map f).failures = c.failures.map f := by
  have hcomp : (error? ∘ map f : Cause ε → Option ε') = fun c => c.error?.map f :=
    funext (error?_map f)
  rw [failures, failures, leaves_map, List.filterMap_map, hcomp, List.map_filterMap]

@[simp] theorem defects_map (f : ε → ε') (c : Cause ε) : (c.map f).defects = c.defects := by
  have hcomp : (defect? ∘ map f : Cause ε → Option String) = defect? := funext (defect?_map f)
  rw [defects, defects, leaves_map, List.filterMap_map, hcomp]

@[simp] theorem interruptors_map (f : ε → ε') (c : Cause ε) :
    (c.map f).interruptors = c.interruptors := by
  have hcomp : (interruptor? ∘ map f : Cause ε → Option FiberId) = interruptor? :=
    funext (interruptor?_map f)
  rw [interruptors, interruptors, leaves_map, List.filterMap_map, hcomp]

end Cause

end FiberEffects
