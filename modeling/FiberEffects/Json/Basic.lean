import FiberEffects.Binary64

namespace FiberEffects

/-- A JSON document. -/
inductive Json where
  | null
  | bool (b : Bool)
  | int (n : Int)
  | float (x : Binary64)
  | str (s : String)
  | arr (items : List Json)
  | obj (fields : List (String × Json))
  deriving Inhabited, Repr

namespace Json

def insertField (k : String) (v : Json) : List (String × Json) → List (String × Json)
  | [] => [(k, v)]
  | (k', v') :: rest =>
    if k = k' then (k, v) :: rest
    else if k < k' then (k, v) :: (k', v') :: rest
    else (k', v') :: insertField k v rest

def mkObj (fields : List (String × Json)) : Json :=
  .obj (fields.foldl (fun acc (k, v) => insertField k v acc) [])

def field? : Json → String → Option Json
  | .obj fields, k => (fields.find? (·.1 == k)).map (·.2)
  | _, _ => none

def index : Json → Nat → Json
  | .arr xs, i => xs.getD i .null
  | _, _ => .null

def beq : Json → Json → Bool
  | .null, .null => true
  | .bool a, .bool b => a == b
  | .int a, .int b => a == b
  | .float x, .float y => x.sameValue y
  | .str a, .str b => a == b
  | .arr xs, .arr ys => beqList xs ys
  | .obj xs, .obj ys => beqFields xs ys
  | _, _ => false
where
  beqList : List Json → List Json → Bool
    | [], [] => true
    | x :: xs, y :: ys => beq x y && beqList xs ys
    | _, _ => false
  beqFields : List (String × Json) → List (String × Json) → Bool
    | [], [] => true
    | (k, x) :: xs, (k', y) :: ys => k == k' && beq x y && beqFields xs ys
    | _, _ => false

instance : BEq Json := ⟨beq⟩

-- Structural recursion through the nested lists of arrays and objects.
mutual
theorem beq_self : (j : Json) → beq j j = true
  | .null => rfl
  | .bool b => by simp [beq]
  | .int n => by simp [beq]
  | .float x => by simp [beq, Binary64.sameValue]
  | .str s => by simp [beq]
  | .arr xs => by rw [beq]; exact beqList_self xs
  | .obj fs => by rw [beq]; exact beqFields_self fs

theorem beqList_self : (xs : List Json) → beq.beqList xs xs = true
  | [] => rfl
  | x :: xs => by simp [beq.beqList, beq_self x, beqList_self xs]

theorem beqFields_self : (fs : List (String × Json)) → beq.beqFields fs fs = true
  | [] => rfl
  | (k, x) :: fs => by simp [beq.beqFields, beq_self x, beqFields_self fs]
end

instance : ReflBEq Json := ⟨beq_self _⟩

def hexDigit (n : Nat) : Char :=
  if n < 10 then Char.ofNat (48 + n) else Char.ofNat (87 + n)

/-- The escape of one character inside a JSON string. -/
def escapeChar (c : Char) : String :=
  if c = '"' then "\\\""
  else if c = '\\' then "\\\\"
  else if c = '\n' then "\\n"
  else if c = '\r' then "\\r"
  else if c = '\t' then "\\t"
  else if c.toNat = 8 then "\\b"
  else if c.toNat = 12 then "\\f"
  else if c.toNat < 32 then
    "\\u00" ++ String.singleton (hexDigit (c.toNat / 16)) ++ String.singleton (hexDigit (c.toNat % 16))
  else String.singleton c

def quote (s : String) : String :=
  "\"" ++ String.join (s.toList.map escapeChar) ++ "\""

def numberLayout : DecimalLayout :=
  { fixedAbove := -5, fixedUpTo := 16, pointZero := true, exponentMark := 'e', plusSign := true,
    exponentDigits := 1 }

def compact : Json → String
  | .null => "null"
  | .bool true => "true"
  | .bool false => "false"
  | .int n => toString n
  | .float x => x.render numberLayout
  | .str s => quote s
  | .arr xs => "[" ++ ",".intercalate (compactList xs) ++ "]"
  | .obj fields => "\x7b" ++ ",".intercalate (compactFields fields) ++ "\x7d"
where
  compactList : List Json → List String
    | [] => []
    | x :: xs => compact x :: compactList xs
  compactFields : List (String × Json) → List String
    | [] => []
    | (k, v) :: rest => (quote k ++ ":" ++ compact v) :: compactFields rest

def ofOption : Option Json → Json
  | none => .arr []
  | some v => .arr [v]

def nat (n : Nat) : Json := .int n

end Json

end FiberEffects
