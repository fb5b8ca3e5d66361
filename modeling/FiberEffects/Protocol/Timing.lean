import FiberEffects.Protocol.Decode
import FiberEffects.Script.Values
import FiberEffects.Time.Timeline

namespace FiberEffects.Protocol

open Script

def runOps {σ : Type} (step : σ → Json → Decode (Json × σ)) : σ → List Json → Decode (List Json)
  | _, [] => pure []
  | s, op :: ops => do
    let (entry, s) ← step s op
    return entry :: (← runOps step s ops)

def scheduleInput (j : Json) : Decode ScheduleInput := do
  let time ← reqNat j "time"
  let delay ← optNat j "delay"
  pure { time := Time.ofNat time, delay := delay.map Duration.mk }

def scheduleAnswer (j : Json) : Decode Json := do
  let policy ← scheduleOfJson (← req j "policy")
  let start := Time.ofNat ((← optNat j "start").getD 0)
  let step (s : ScheduleState) (i : Json) : Decode (Json × ScheduleState) := do
    let (s, decision) := policy.step s (← scheduleInput i)
    pure (.mkObj [("state", scheduleStateJson s), ("decision", decisionJson decision)], s)
  return .arr (← runOps step (ScheduleState.initial start) (← reqList j "inputs"))

/-- A timeline of named tasks and the keys of its adds, in order. -/
structure TaskTimeline where
  timeline : Timeline String := {}
  keys : Array TimelineKey := #[]

/-- One timeline operation and its result, named by the first of its keys whose value is not `null`. -/
def timelineStep (t : TaskTimeline) (j : Json) : Decode (Json × TaskTimeline) := do
  if let some at_ ← optNat j "add" then
    let task ← reqStr j "task"
    let ((key, nearest), timeline) := t.timeline.add (Time.ofNat at_) task
    return (.mkObj [("arrival", .nat key.arrival.nanos), ("nearest", .bool nearest)],
      { timeline, keys := t.keys.push key })
  if let some index ← optNat j "remove" then
    match t.keys[index]? with
    | some key =>
      let (task, timeline) := t.timeline.remove key
      return (.arr (task.map Json.str).toList, { t with timeline })
    | none => badInput "no such key"
  if let some at_ ← optNat j "ready" then
    let (tasks, timeline) := t.timeline.takeReady (Time.ofNat at_)
    return (.arr (tasks.map Json.str), { t with timeline })
  badInput "unknown timeline op"

def timelineAnswer (j : Json) : Decode Json := do
  let step (t : TaskTimeline) (op : Json) : Decode (Json × TaskTimeline) := do
    let (r, t) ← timelineStep t op
    let tl := t.timeline
    pure (.mkObj [("r", r), ("len", .nat tl.size), ("empty", .bool (tl.size == 0)),
      ("next", (tl.nextArrival.map fun a => Json.nat a.nanos).getD .null)], t)
  return .arr (← runOps step {} (← reqList j "ops"))

end FiberEffects.Protocol
