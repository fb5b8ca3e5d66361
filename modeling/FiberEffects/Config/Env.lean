import FiberEffects.Config.Error
import FiberEffects.Config.Runtime
import FiberEffects.Text.Blank

namespace FiberEffects

abbrev Environment := List (String × String)

def Environment.get? (env : Environment) (name : String) : Option String :=
  (env.find? (·.1 == name)).map (·.2)

def setRefusal (name value : String) : Option String :=
  if name.contains (Char.ofNat 0) || value.contains (Char.ofNat 0) then
    some "file name contained an unexpected NUL byte"
  else if name.isEmpty || name.contains '=' then some "Invalid argument (os error 22)"
  else none

def Environment.set (env : Environment) (name value : String) : Except String Environment :=
  match setRefusal name value with
  | some reason =>
    let n := Text.debugQuote name
    let v := Text.debugQuote value
    .error s!"failed to set environment variable `{n}` to `{v}`: {reason}"
  | none => .ok ((name, value) :: env.filter (·.1 != name))

/-- Why text is not an unsigned 64-bit number. -/
inductive NumberError where
  | empty
  | invalidDigit
  | tooLarge
  deriving DecidableEq, Inhabited

def NumberError.text : NumberError → String
  | .empty => "cannot parse integer from empty string"
  | .invalidDigit => "invalid digit found in string"
  | .tooLarge => "number too large to fit in target type"

def readDigits : List Char → Nat → Except NumberError Nat
  | [], acc => .ok acc
  | c :: cs, acc =>
    if c.isDigit then
      let v := acc * 10 + (c.toNat - 48)
      if Nat.pow 2 64 ≤ v then .error .tooLarge else readDigits cs v
    else .error .invalidDigit

def parseUnsigned (s : String) : Except NumberError Nat :=
  match s.toList with
  | [] => .error .empty
  | ['+'] => .error .invalidDigit
  | '+' :: ds => readDigits ds 0
  | ds => readDigits ds 0

def parseFlag (s : String) : Option Bool :=
  match (Text.trimBlank s).toLower with
  | "true" | "1" | "yes" | "on" => some true
  | "false" | "0" | "no" | "off" => some false
  | _ => none

namespace Environment

def timeSourceVar : String := "STRAND_TIME_SOURCE"

def startVar : String := "STRAND_START_TIME_MS"

def interruptibleVar : String := "STRAND_INTERRUPTIBLE"

def traceVar : String := "STRAND_TRACE"

def timeSourceOf (name value : String) : Except ConfigError TimeSource :=
  match TimeSource.parse value with
  | .ok k => .ok k
  | .error reason => .error (.invalidValue name value reason)

def unsignedOf (name value : String) : Except ConfigError Nat :=
  match parseUnsigned (Text.trimBlank value) with
  | .ok n => .ok n
  | .error e => .error (.invalidValue name value s!"expected unsigned integer ({e.text})")

def flagOf (name value : String) : Except ConfigError Bool :=
  match parseFlag value with
  | some b => .ok b
  | none => .error (.invalidValue name value "expected bool (true/false/1/0/yes/no)")

/-- Applies the variables that are set to a configuration. -/
def apply (env : Environment) (c : RuntimeConfig) : Except ConfigError RuntimeConfig := do
  let timeSource ← match env.get? timeSourceVar with
    | some v => timeSourceOf timeSourceVar v
    | none => pure c.timeSource
  let startTime ← match env.get? startVar with
    | some v => (some ∘ Time.ofMillis) <$> unsignedOf startVar v
    | none => pure c.startTime
  let interruptible ← match env.get? interruptibleVar with
    | some v => flagOf interruptibleVar v
    | none => pure c.interruptible
  let trace ← match env.get? traceVar with
    | some v => flagOf traceVar v
    | none => pure c.trace
  pure { timeSource, startTime, interruptible, trace }

end Environment

end FiberEffects
