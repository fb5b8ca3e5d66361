import FiberEffects.Protocol.Basics
import FiberEffects.Protocol.CauseOp
import FiberEffects.Protocol.Session
import FiberEffects.Protocol.ConfigOp
import FiberEffects.Protocol.RuntimeCtor
import FiberEffects.Protocol.Misc
import FiberEffects.Protocol.Timing
import FiberEffects.Protocol.Timers
import FiberEffects.Protocol.DisposableOp
import FiberEffects.Json.Read

namespace FiberEffects.Protocol

def panicAnswer (message : String) : Json :=
  .mkObj [("error", .str "panic"), ("message", .str message)]

/-- The answer to one request. -/
def answer (j : Json) : Json :=
  let result : Decode Json := do
    match textOrEmpty j "op" with
    | "time" => timeAnswer j
    | "fiber_id" => fiberIdAnswer j
    | "cause" => causeAnswer j
    | "error" => errorAnswer j
    | "time_source" => timeSourceAnswer j
    | "scoped_stack" => scopedStackAnswer j
    | "wall_clock" => pure wallClockAnswer
    | "session" => sessionAnswer j
    | "config" => configAnswer j
    | "runtime_ctor" => runtimeCtorAnswer j
    | "misc" => pure miscAnswer
    | "schedule" => scheduleAnswer j
    | "timeline" => timelineAnswer j
    | "timer_driver" => timerDriverAnswer j
    | "driver_timer" => driverTimerAnswer j
    | "disposable" => disposableAnswer j
    | other => badInput s!"unknown op {other}"
  match result with
  | .ok v => v
  | .error m => panicAnswer m

def answerLine (line : String) : String :=
  match Json.read line with
  | .ok j => (answer j).compact
  | .error e => (Json.mkObj [("error", .str "json"), ("message", .str e)]).compact

end FiberEffects.Protocol
