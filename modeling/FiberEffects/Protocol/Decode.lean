import FiberEffects.Json.Basic
import FiberEffects.Time.Basic
import FiberEffects.Fiber.Id

namespace FiberEffects.Protocol

abbrev Decode := Except String

def badInput {α : Type} (detail : String) : Decode α := .error ("bad input: " ++ detail)

def opt (j : Json) (k : String) : Option Json :=
  match j.field? k with
  | some .null | none => none
  | some v => some v

def req (j : Json) (k : String) : Decode Json :=
  match j.field? k with
  | some v => pure v
  | none => badInput s!"missing field {k}"

def present (j : Json) (k : String) : Bool :=
  (j.field? k).isSome

def textOrEmpty (j : Json) (k : String) : String :=
  match j.field? k with
  | some (.str s) => s
  | _ => ""

def asNat (k : String) : Json → Decode Nat
  | .int n => if 0 ≤ n ∧ n ≤ (maxNanos : Int) then pure n.toNat else badInput s!"{k} must be an unsigned integer"
  | _ => badInput s!"{k} must be an unsigned integer"

def reqNat (j : Json) (k : String) : Decode Nat := do asNat k (← req j k)

def optNat (j : Json) (k : String) : Decode (Option Nat) :=
  match opt j k with
  | some v => some <$> asNat k v
  | none => pure none

def asStr (k : String) : Json → Decode String
  | .str s => pure s
  | _ => badInput s!"{k} must be a string"

def reqStr (j : Json) (k : String) : Decode String := do asStr k (← req j k)

def optStr (j : Json) (k : String) : Decode (Option String) :=
  match opt j k with
  | some v => some <$> asStr k v
  | none => pure none

def optBool (j : Json) (k : String) : Decode (Option Bool) :=
  match opt j k with
  | some (.bool b) => pure (some b)
  | some _ => badInput s!"{k} must be a bool"
  | none => pure none

def reqList (j : Json) (k : String) : Decode (List Json) := do
  match ← req j k with
  | .arr xs => pure xs
  | _ => badInput s!"{k} must be an array"

def optList (j : Json) (k : String) : Decode (List Json) :=
  match opt j k with
  | none => pure []
  | some (.arr xs) => pure xs
  | some _ => badInput s!"{k} must be an array"

def asFiberId : Json → Decode FiberId
  | .null => pure .none
  | j => do
    let seq ← reqNat j "id"
    let start ← optNat j "start"
    pure (.live seq (Time.ofNat (start.getD 0)))

def fiberIdJson : FiberId → Json
  | .none => .null
  | .live seq start => .mkObj [("id", .nat seq), ("start", .nat start.nanos)]

end FiberEffects.Protocol
