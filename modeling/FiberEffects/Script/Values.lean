import FiberEffects.Script.CauseJson
import FiberEffects.Script.Expr
import FiberEffects.Effect.Value

namespace FiberEffects.Script

open Protocol

def durationJson (d : Duration) : Json :=
  if d.nanos = Duration.max.nanos then .str "MAX" else .nat d.nanos

def flagsJson (f : Flags) : Json :=
  .mkObj [("interrupt_status", .bool f.interruptible), ("should_trace", .bool f.trace)]

def scheduleStateJson (s : ScheduleState) : Json :=
  .mkObj [("start", .nat s.start.nanos), ("iterations", .nat s.iterations.toNat),
    ("previous_time", (s.previousTime.map fun t => Json.nat t.nanos).getD .null),
    ("previous_delay", (s.previousDelay.map durationJson).getD .null),
    ("current_delay", durationJson s.currentDelay), ("elapsed", durationJson s.elapsed)]

def decisionJson : ScheduleDecision → Json
  | .continue d => .mkObj [("continue", (d.map durationJson).getD .null)]
  | .done => .str "done"

mutual

/-- A runtime value as JSON. -/
def valJson : Val → Json
  | .json j => j
  | .unit => .null
  | .bool b => .bool b
  | .nat n => .nat n
  | .time t => .nat t.nanos
  | .flags f => flagsJson f
  | .fiberId f => fiberIdJson f
  | .exit e => exitJson e
  | .opt none => .arr []
  | .opt (some v) => .arr [valJson v]
  | .list vs => .arr (valsJson vs)
  | .scheduleState s => scheduleStateJson s
  | _ => .null

def valsJson : List Val → List Json
  | [] => []
  | v :: vs => valJson v :: valsJson vs

def exitJson : Except (Cause Json) Val → Json
  | .ok v => .mkObj [("ok", valJson v)]
  | .error c => .mkObj [("err", causeJson c)]

end

def exitOfJson (j : Json) : Decode Exit :=
  match j.field? "ok" with
  | some v => pure (.ok (.json v))
  | none => do .error <$> causeOfJson (← req j "err")

def floatOfJson : Json → Option Float
  | .int n => (Binary64.ofDecimal (decide (n < 0)) n.natAbs 0).map Binary64.toFloat
  | .float x => some x.toFloat
  | _ => none

def maxRetries : Nat := Nat.pow 2 32 - 1

/-- Reads a schedule, looking for its kind in the order `recurs`, `spaced`, `exponential`,
`take`, a kind whose value is `null` counting as absent: `{"recurs":n}`, `{"spaced":ns}`, `{"exponential":{"base":ns,"max_retries":n,
"factor"?:f}}` or `{"take":schedule,"max":n}`. -/
def scheduleOfJson : Json → Decode Schedule
  | j@(.obj fields) =>
    if let some n := opt j "recurs" then .recurs <$> asNat "recurs" n
    else if let some p := opt j "spaced" then (fun n => .spaced ⟨n⟩) <$> asNat "spaced" p
    else if let some e := opt j "exponential" then do
      let base ← reqNat e "base"
      let retries ← reqNat e "max_retries"
      if maxRetries < retries then badInput "max_retries too large" else
      let factor ← match opt e "factor" with
        | none => pure 2.0
        | some f => match floatOfJson f with
          | some x => pure x
          | none => badInput "factor must be a number"
      pure (.exponential ⟨base⟩ factor retries)
    else match lookupField fields "take" with
    | some ⟨.null, _⟩ | none => badInput "unknown schedule"
    | some ⟨inner, _⟩ => do
      let inner ← scheduleOfJson inner
      pure (.take inner (← reqNat j "max"))
  | _ => badInput "unknown schedule"
termination_by j => sizeOf j
decreasing_by
  simp_wf
  omega

end FiberEffects.Script
