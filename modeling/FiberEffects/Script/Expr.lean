import FiberEffects.Json.Basic

namespace FiberEffects.Script

/-- The four arithmetic operations. -/
inductive ArithOp where
  | add
  | sub
  | mul
  | div
  deriving DecidableEq, Inhabited

def ArithOp.name : ArithOp → String
  | .add => "add"
  | .sub => "sub"
  | .mul => "mul"
  | .div => "div"

/-- An expression. -/
inductive Expr where
  | lit (v : Json)
  | var (name : String)
  | arith (op : ArithOp) (args : List Expr)
  | lt (args : List Expr)
  | eq (args : List Expr)
  | not (a : Expr)
  | cond (c t e : Expr)
  | concat (parts : List Expr)
  | str (a : Expr)
  | len (a : Expr)
  | arr (items : List Expr)
  | obj (fields : List (String × Expr))
  | get (args : List Expr)
  | malformed (message : String)
  deriving Inhabited

abbrev Env := List (String × Json)

def minInt64 : Int := -Int.pow 2 63

def maxInt64 : Int := Int.pow 2 63 - 1

def fitsInt64 (n : Int) : Bool := minInt64 ≤ n && n ≤ maxInt64

def asInt64 : Json → Option Int
  | .int n => if fitsInt64 n then some n else none
  | _ => none

def ArithOp.apply (op : ArithOp) (a b : Int) : Except String Int :=
  match op with
  | .add => check (a + b)
  | .sub => check (a - b)
  | .mul => check (a * b)
  | .div => if b = 0 then .error "division by zero" else check (a.tdiv b)
where
  check (n : Int) : Except String Int :=
    if fitsInt64 n then .ok n else .error s!"arithmetic overflow: {op.name}"

mutual
def Expr.ofJson : Json → Expr
  | .obj [(k, v)] => Expr.ofForm k v
  | .obj _ => .malformed "bad input: expression object must have exactly one key"
  | v => .lit v

/-- Reads the form named `k` with argument `v`. -/
def Expr.ofForm (k : String) (v : Json) : Expr :=
  match k, v with
  | "lit", v => .lit v
  | "var", .str x => .var x
  | "var", _ => .malformed "bad input: var expects a string"
  | "add", .arr args => .arith .add (Expr.ofList args)
  | "sub", .arr args => .arith .sub (Expr.ofList args)
  | "mul", .arr args => .arith .mul (Expr.ofList args)
  | "div", .arr args => .arith .div (Expr.ofList args)
  | "lt", .arr args => .lt (Expr.ofList args)
  | "eq", .arr args => .eq (Expr.ofList args)
  | "not", a => .not (Expr.ofJson a)
  | "if", .arr [c, t, e] => .cond (Expr.ofJson c) (Expr.ofJson t) (Expr.ofJson e)
  | "if", .arr _ => .malformed "bad input: if expects three arguments"
  | "concat", .arr parts => .concat (Expr.ofList parts)
  | "str", a => .str (Expr.ofJson a)
  | "len", a => .len (Expr.ofJson a)
  | "arr", .arr items => .arr (Expr.ofList items)
  | "obj", .obj fields => .obj (Expr.ofFields fields)
  | "get", .arr args => .get (Expr.ofList args)
  | "add", _ | "sub", _ | "mul", _ | "div", _ | "lt", _ | "eq", _ | "get", _ | "if", _
  | "concat", _ | "arr", _ => .malformed s!"bad input: {k} expects an array"
  | "obj", _ => .malformed "bad input: obj expects an object"
  | other, _ => .malformed s!"bad input: unknown expression {other}"

def Expr.ofList : List Json → List Expr
  | [] => []
  | x :: xs => Expr.ofJson x :: Expr.ofList xs

def Expr.ofFields : List (String × Json) → List (String × Expr)
  | [] => []
  | (k, x) :: rest => (k, Expr.ofJson x) :: Expr.ofFields rest
end

def lengthOf : Json → Option Nat
  | .str s => some s.length
  | .arr xs => some xs.length
  | .obj fs => some fs.length
  | _ => none

def entryOf : Json → Json → Option Json
  | .obj fs, .str k => some ((fs.find? (·.1 == k)).map (·.2) |>.getD .null)
  | .arr xs, .int i => some (if 0 ≤ i then xs[i.toNat]?.getD .null else .null)
  | .arr _, .float _ => some .null
  | _, _ => none

mutual
/-- Evaluates an expression; an error is the message of a panic. -/
def Expr.eval (env : Env) : Expr → Except String Json
  | .lit v => pure v
  | .var x =>
    match env.find? (·.1 == x) with
    | some (_, v) => pure v
    | none => .error s!"unbound variable: {x}"
  | .arith op args => do
    match ← Expr.evalList env args with
    | [x, y] =>
      match asInt64 x, asInt64 y with
      | some m, some n => .int <$> op.apply m n
      | _, _ => .error s!"type error: {op.name}"
    | _ => .error s!"bad input: {op.name} expects two arguments"
  | .lt args => do
    match ← Expr.evalList env args with
    | [x, y] =>
      match asInt64 x, asInt64 y with
      | some m, some n => pure (.bool (decide (m < n)))
      | _, _ => .error "type error: lt"
    | _ => .error "bad input: lt expects two arguments"
  | .eq args => do
    match ← Expr.evalList env args with
    | [x, y] => pure (.bool (x == y))
    | _ => pure (.bool false)
  | .not a => do
    match ← Expr.eval env a with
    | .bool b => pure (.bool (!b))
    | _ => .error "type error: not"
  | .cond c t e => do
    match ← Expr.eval env c with
    | .bool true => Expr.eval env t
    | .bool false => Expr.eval env e
    | _ => .error "type error: if"
  | .concat parts => do
    let vs ← Expr.evalList env parts
    let strs := vs.filterMap fun | .str s => some s | _ => none
    if strs.length = vs.length then pure (.str (String.join strs)) else .error "type error: concat"
  | .str a => do
    match ← Expr.eval env a with
    | .str s => pure (.str s)
    | v => pure (.str v.compact)
  | .len a => do
    match lengthOf (← Expr.eval env a) with
    | some n => pure (.nat n)
    | none => .error "type error: len"
  | .arr items => .arr <$> Expr.evalList env items
  | .obj fields => Json.mkObj <$> Expr.evalFields env fields
  | .get args => do
    match ← Expr.evalList env args with
    | [base, key] =>
      match entryOf base key with
      | some v => pure v
      | none => .error "type error: get"
    | _ => .error "bad input: get expects two arguments"
  | .malformed m => .error m

def Expr.evalList (env : Env) : List Expr → Except String (List Json)
  | [] => pure []
  | x :: xs => do
    let v ← Expr.eval env x
    let vs ← Expr.evalList env xs
    pure (v :: vs)

def Expr.evalFields (env : Env) : List (String × Expr) → Except String (List (String × Json))
  | [] => pure []
  | (k, x) :: rest => do
    let v ← Expr.eval env x
    let vs ← Expr.evalFields env rest
    pure ((k, v) :: vs)
end

end FiberEffects.Script
