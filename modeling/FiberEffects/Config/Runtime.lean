import FiberEffects.Config.TimeSource
import FiberEffects.Flags
import FiberEffects.Time.Basic

namespace FiberEffects

/-- The configuration of a runtime. -/
structure RuntimeConfig where
  timeSource : TimeSource := .wall
  startTime : Option Time := none
  interruptible : Bool := true
  trace : Bool := true
  deriving Inhabited

namespace RuntimeConfig

def normalize (c : RuntimeConfig) : RuntimeConfig :=
  if c.timeSource = .virtual && c.startTime.isNone then { c with startTime := some Time.zero } else c

def flags (c : RuntimeConfig) : Flags := { interruptible := c.interruptible, trace := c.trace }

def optionTimeDebug : Option Time → String
  | some t => s!"Some({t.debug})"
  | none => "None"

def debug (c : RuntimeConfig) : String :=
  let ts := c.timeSource.debug
  let st := optionTimeDebug c.startTime
  s!"RuntimeConfig \x7b time_source: {ts}, start_time: {st}, interruptible: {c.interruptible}, trace: {c.trace} \x7d"

end RuntimeConfig

end FiberEffects
