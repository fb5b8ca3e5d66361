import FiberEffects.Protocol.Timing
import FiberEffects.Time.TimerQueue
import FiberEffects.Effect.Value

namespace FiberEffects.Protocol

/-- What a registration of `timer_driver` does when it fires: records its label, cancels a
registration by number, then registers the given registration. -/
structure ChainedTimer where
  label : String
  cancel : Option Nat
  next : Option Json

/-- The state of a `timer_driver` run. -/
structure DriverRun where
  now : Time
  queue : TimerQueue ChainedTimer := {}
  handles : Array TimerHandle := #[]
  fired : List String := []

namespace DriverRun

def register (r : DriverRun) (j : Json) : Decode (Time × DriverRun) := do
  let label ← reqStr j "label"
  let deadline := Time.ofNat (← reqNat j "register")
  let cancel ← optNat j "cancel"
  let action : ChainedTimer := { label, cancel, next := opt j "then" }
  let (h, queue) := r.queue.register deadline action
  pure (deadline, { r with queue, handles := r.handles.push h })

def cancel (r : DriverRun) (i : Nat) : Decode (Bool × DriverRun) :=
  match r.handles[i]? with
  | some h =>
    let (was, queue) := r.queue.cancel h
    pure (was, { r with queue })
  | none => badInput "no such handle"

/-- Runs fired registrations in order. -/
def fire (r : DriverRun) : List ChainedTimer → Decode DriverRun
  | [] => pure r
  | t :: ts => do
    let r := { r with fired := r.fired ++ [t.label] }
    let r := match t.cancel.bind (r.handles[·]?) with
      | some h => { r with queue := (r.queue.cancel h).2 }
      | none => r
    let r ← match t.next with
      | some j => (·.2) <$> r.register j
      | none => pure r
    fire r ts

def process (r : DriverRun) : Decode (Nat × DriverRun) := do
  let (due, queue) := r.queue.takeDue r.now
  let r ← fire { r with queue } due
  pure (due.length, r)

def park (r : DriverRun) : Decode (Option Nat × DriverRun) := do
  match r.queue.nextDeadline with
  | none => pure (none, r)
  | some deadline =>
    let (n, r) ← process { r with now := r.now.later deadline }
    pure (some n, r)

/-- One operation and its result. -/
def step (r : DriverRun) (j : Json) : Decode (Json × DriverRun) := do
  if present j "register" then
    let (deadline, r) ← r.register j
    return (.mkObj [("deadline", .nat deadline.nanos)], r)
  if present j "cancel" then
    let (was, r) ← r.cancel (← reqNat j "cancel")
    return (.bool was, r)
  if present j "process" then
    let (n, r) ← r.process
    return (.nat n, r)
  if present j "park" then
    let (n, r) ← r.park
    return ((n.map Json.nat).getD .null, r)
  if present j "advance" then return (.null, { r with now := r.now.addNanos (← reqNat j "advance") })
  if present j "advance_to" then
    return (.null, { r with now := r.now.later (Time.ofNat (← reqNat j "advance_to")) })
  if present j "set" then return (.null, { r with now := Time.ofNat (← reqNat j "set") })
  badInput "unknown driver op"

end DriverRun

/-- The answer to a `timer_driver` request: each operation's result with what fired during it
and the queue after it. -/
def timerDriverAnswer (j : Json) : Decode Json := do
  let start := Time.ofNat ((← optNat j "start").getD 0)
  let step (r : DriverRun) (op : Json) : Decode (Json × DriverRun) := do
    let (res, r) ← r.step op
    let q := r.queue
    pure (.mkObj [("r", res), ("fired", .arr (r.fired.map Json.str)), ("now", .nat r.now.nanos),
      ("pending", .nat q.size), ("empty", .bool (q.size == 0)),
      ("next", (q.nextDeadline.map fun t => Json.nat t.nanos).getD .null)], { r with fired := [] })
  return .arr (← runOps step { now := start } (← reqList j "ops"))

def clockReadings (c : SourceClock) (now : Time) : Json :=
  let t := c.time now
  let u := c.unixTime now
  .mkObj [("start_time", .nat c.start.nanos), ("time", .nat t.nanos), ("unix_time", .nat u.nanos),
    ("time_delay", .nat (t.addNanos 7).nanos), ("unix_time_delay", .nat (u.addNanos 7).nanos)]

/-- The state of a `driver_timer` run: the source's time, the timers' clocks, the queue of
labelled callbacks with the clock they read, and the disposables of the registrations. -/
structure TimerRun where
  now : Time
  clocks : Array SourceClock
  queue : TimerQueue (String × SourceClock) := {}
  handles : Array TimerHandle := #[]
  fired : List (String × Time) := []

namespace TimerRun

def clock (r : TimerRun) (i : Nat) : Decode SourceClock :=
  match r.clocks[i]? with
  | some c => pure c
  | none => badInput "no such timer"

def process (r : TimerRun) : Nat × TimerRun :=
  let (due, queue) := r.queue.takeDue r.now
  (due.length, { r with queue, fired := r.fired ++ due.map fun (l, c) => (l, c.time r.now) })

def driverDebug (r : TimerRun) : String :=
  let now := r.now.debug
  s!"TimerDriver \x7b now: {now}, pending: {r.queue.size} \x7d"

/-- One operation and its result. -/
def step (r : TimerRun) (j : Json) : Decode (Json × TimerRun) := do
  if present j "set_timer" then
    let c ← r.clock ((← optNat j "timer").getD 0)
    let label ← reqStr j "label"
    let ns ← reqNat j "set_timer"
    let (h, queue) := r.queue.register (r.now.addNanos ns) (label, c)
    return (.nat r.handles.size, { r with queue, handles := r.handles.push h })
  if present j "dispose" then
    match r.handles[← reqNat j "dispose"]? with
    | some h => return (.null, { r with queue := (r.queue.cancel h).2 })
    | none => badInput "no such handle"
  if present j "process" then
    let (n, r) := r.process
    return (.nat n, r)
  if present j "park" then
    match r.queue.nextDeadline with
    | none => return (.null, r)
    | some deadline =>
      let (n, r) := { r with now := r.now.later deadline }.process
      return (.nat n, r)
  if present j "advance" then return (.null, { r with now := r.now.addNanos (← reqNat j "advance") })
  if present j "fork" then
    let c ← r.clock (← reqNat j "fork")
    return (.nat r.clocks.size, { r with clocks := r.clocks.push (c.fork r.now) })
  if present j "readings" then
    let c ← r.clock (← reqNat j "readings")
    return (.mkObj [("timer", clockReadings c r.now), ("fork_clock", clockReadings (c.fork r.now) r.now)], r)
  if present j "debug" then
    let c ← r.clock 0
    let clock := c.debug r.now
    let timer := s!"DriverTimer \x7b clock: {clock}, pending: {r.queue.size} \x7d"
    return (.mkObj [("timer", .str timer), ("clock", .str clock), ("driver", .str r.driverDebug),
      ("clock_fork", .str ((c.fork r.now).debug r.now))], r)
  badInput "unknown driver_timer op"

end TimerRun

/-- The answer to a `driver_timer` request: each operation's result with what fired during it
and the number of waiting registrations. -/
def driverTimerAnswer (j : Json) : Decode Json := do
  let start := Time.ofNat ((← optNat j "start").getD 0)
  let now := Time.ofNat ((← optNat j "clock").getD 0)
  let step (r : TimerRun) (op : Json) : Decode (Json × TimerRun) := do
    let (res, r) ← r.step op
    let fired := r.fired.map fun (l, t) => Json.arr [.str l, .nat t.nanos]
    pure (.mkObj [("r", res), ("fired", .arr fired), ("pending", .nat r.queue.size)],
      { r with fired := [] })
  return .arr (← runOps step { now, clocks := #[⟨now, start⟩] } (← reqList j "ops"))

end FiberEffects.Protocol
