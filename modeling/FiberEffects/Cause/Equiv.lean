import FiberEffects.Cause.Basic

namespace FiberEffects

/-- One item of a flattened sequential chain. -/
inductive Cause.Item (ε : Type) where
  | expected (time : Time) (error : ε)
  | unexpected (time : Time) (defect : String)
  | interrupted (time : Time) (fiber : FiberId)
  | traced (label : String) (items : List (Cause.Item ε))
  | par (branches : List (List (Cause.Item ε)))
  deriving Inhabited

namespace Cause

variable {ε : Type}

mutual
/-- The sequential items of a cause. -/
def items : Cause ε → List (Item ε)
  | .empty => []
  | .expected t e => [.expected t e]
  | .unexpected t d => [.unexpected t d]
  | .interrupted t f => [.interrupted t f]
  | .seq l r => l.items ++ r.items
  | .par l r =>
    match l.branches ++ r.branches with
    | [] => []
    | [single] => single
    | bs => [.par bs]
  | .traced c lbl => [.traced lbl c.items]

def branches : Cause ε → List (List (Item ε))
  | .empty => []
  | .par l r => l.branches ++ r.branches
  | c => [c.items]
end

variable [BEq ε]

mutual
def Item.eq : Item ε → Item ε → Bool
  | .expected t e, .expected t' e' => t == t' && e == e'
  | .unexpected t d, .unexpected t' d' => t == t' && d == d'
  | .interrupted t f, .interrupted t' f' => t == t' && f == f'
  | .traced l xs, .traced l' ys => l == l' && Item.listEq xs ys
  | .par bs, .par cs => bs.length == cs.length && Item.matchAll bs (cs.map some)
  | _, _ => false

def Item.listEq : List (Item ε) → List (Item ε) → Bool
  | [], [] => true
  | x :: xs, y :: ys => Item.eq x y && Item.listEq xs ys
  | _, _ => false

def Item.matchAll : List (List (Item ε)) → List (Option (List (Item ε))) → Bool
  | [], _ => true
  | b :: bs, slots =>
    match Item.takeFirst b slots with
    | some rest => Item.matchAll bs rest
    | none => false

def Item.takeFirst (b : List (Item ε)) :
    List (Option (List (Item ε))) → Option (List (Option (List (Item ε))))
  | [] => none
  | none :: slots => (Item.takeFirst b slots).map (none :: ·)
  | some c :: slots =>
    if Item.listEq b c then some (none :: slots)
    else (Item.takeFirst b slots).map (some c :: ·)
end

def equiv (a b : Cause ε) : Bool := Item.listEq a.items b.items

end Cause

end FiberEffects
