import FiberEffects.Protocol.Decode
import FiberEffects.Error
import FiberEffects.Stack
import FiberEffects.Text.Quoted
import FiberEffects.Config.TimeSource

namespace FiberEffects.Protocol

/-- Readings of an instant given by `nanos` or else `millis` when not `null`, and otherwise by the
required `secs`, with the optional sums and differences asked for. -/
def timeAnswer (j : Json) : Decode Json := do
  let t ← match ← optNat j "nanos" with
    | some n => pure (Time.ofNat n)
    | none =>
      match ← optNat j "millis" with
      | some m => pure (Time.ofMillis m)
      | none => Time.ofSecs <$> reqNat j "secs"
  let base : List (String × Json) :=
    [("nanos", .nat t.nanos), ("display", .str t.display), ("debug", .str t.debug),
     ("as_millis", .nat t.millis)]
  let add ← match ← optNat j "add" with
    | some n => pure [("add", .nat (t.addNanos n).nanos), ("add_duration", .nat (t.add ⟨n⟩).nanos)]
    | none => pure []
  let sub ← match ← optNat j "sub" with
    | some n => pure [("sub", .nat (t.subNanos n).nanos)]
    | none => pure []
  let since ← match ← optNat j "since" with
    | some n => pure [("since", .nat (t.since (Time.ofNat n)).nanos)]
    | none => pure []
  pure (.mkObj (base ++ add ++ sub ++ since))

def fiberIdAnswer (j : Json) : Decode Json := do
  let f ← asFiberId (← req j "fiber")
  pure (.mkObj [("display", .str f.display), ("debug", .str f.debug),
    ("sequence", match f.seq? with | some n => .nat n | none => .null),
    ("start_time", match f.start? with | some t => .nat t.nanos | none => .null),
    ("is_none", .bool (f matches .none))])

/-- Readings of a host error built from a kind and an optional message. -/
def errorAnswer (j : Json) : Decode Json := do
  let kind ← match ← reqStr j "kind" with
    | "Stalled" => pure ErrorKind.stalled
    | "Config" => pure ErrorKind.config
    | "Internal" => pure ErrorKind.internal
    | other => badInput s!"unknown error kind {other}"
  let message ← optStr j "message"
  let e : HostError := ⟨kind, message, none⟩
  pure (.mkObj [("display", .str e.display), ("category", .str kind.category.name),
    ("is_stalled", .bool (kind == .stalled)),
    ("message", match message with | some m => .str m | none => .null)])

def timeSourceAnswer (j : Json) : Decode Json := do
  match TimeSource.parse (← reqStr j "text") with
  | .ok k => pure (.mkObj [("kind", .str k.name), ("display", .str k.name)])
  | .error m => pure (.mkObj [("error", .str "TimeSourceKind"), ("message", .str m)])

def stackDebug (s : ScopedStack String) : String :=
  "ScopedStack \x7b base: " ++ Text.debugQuote s.base ++ ", overrides: [" ++
    ", ".intercalate (s.overrides.reverse.map Text.debugQuote) ++ "] \x7d"

def stackValue : Json → Decode String
  | .str s => pure s
  | _ => badInput "stack values must be strings"

/-- One stack operation and its result: a `push` key pushes its value, else a `pop` key of any
value pops. -/
def stackStep (s : ScopedStack String) (op : Json) : Decode (Json × ScopedStack String) := do
  match op.field? "push", present op "pop" with
  | some v, _ => do
    let x ← stackValue v
    pure (.null, s.push x)
  | none, true =>
    let (popped, s') := s.pop
    pure (Json.ofOption (popped.map Json.str), s')
  | none, false => badInput "unknown stack op"

/-- A stack replayed from operations, with its state after each. -/
def scopedStackAnswer (j : Json) : Decode Json := do
  let base ← stackValue (← req j "base")
  let ops ← reqList j "ops"
  let step := fun (st : ScopedStack String × List Json) (op : Json) => do
    let (r, s') ← stackStep st.1 op
    pure (s', st.2 ++ [Json.mkObj [("r", r), ("current", .str s'.current),
      ("depth", .nat s'.depth), ("debug", .str (stackDebug s'))]])
  let (_, entries) ← List.foldlM step (ScopedStack.new base, []) ops
  pure (.arr entries)

def wallClockAnswer : Json :=
  .mkObj [("monotonic", .bool true), ("reached_deadline", .bool true),
    ("source_clock_start", .nat 10000000000), ("unix_at_least_start", .bool true)]

end FiberEffects.Protocol
