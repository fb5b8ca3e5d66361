import FiberEffects.Config.File
import FiberEffects.Config.Env

namespace FiberEffects

/-- The settings given explicitly to a builder. -/
structure ExplicitSettings where
  timeSource : Option TimeSource := none
  startTime : Option Time := none
  interruptible : Option Bool := none
  trace : Option Bool := none
  deriving Inhabited

namespace ExplicitSettings

def apply (s : ExplicitSettings) (c : RuntimeConfig) : RuntimeConfig :=
  { timeSource := s.timeSource.getD c.timeSource
    startTime := match s.startTime with
      | some t => some t
      | none => c.startTime
    interruptible := s.interruptible.getD c.interruptible
    trace := s.trace.getD c.trace }

def optionDebug {α : Type} (render : α → String) : Option α → String
  | some a => s!"Some({render a})"
  | none => "None"

def debug (s : ExplicitSettings) : String :=
  let ts := optionDebug TimeSource.debug s.timeSource
  let st := optionDebug Time.debug s.startTime
  let i := optionDebug toString s.interruptible
  let t := optionDebug toString s.trace
  s!"Explicit \x7b time_source: {ts}, start_time: {st}, interruptible: {i}, trace: {t} \x7d"

end ExplicitSettings

/-- A builder of runtime configurations. -/
structure RuntimeBuilder where
  base : RuntimeConfig := {}
  explicit : ExplicitSettings := {}
  envOverrides : Bool := false
  sharedClock : Bool := false
  deriving Inhabited

namespace RuntimeBuilder

def deterministic : RuntimeBuilder :=
  { explicit := { timeSource := some .virtual, startTime := some Time.zero } }

def withBase (b : RuntimeBuilder) (c : RuntimeConfig) : RuntimeBuilder := { b with base := c }

def virtualTime (b : RuntimeBuilder) : RuntimeBuilder :=
  { b with explicit := { b.explicit with timeSource := some .virtual } }

def wallTime (b : RuntimeBuilder) : RuntimeBuilder :=
  { b with explicit := { b.explicit with timeSource := some .wall } }

def withVirtualClock (b : RuntimeBuilder) : RuntimeBuilder :=
  virtualTime { b with sharedClock := true }

def startAt (b : RuntimeBuilder) (t : Time) : RuntimeBuilder :=
  { b with explicit := { b.explicit with startTime := some t } }

def interruptible (b : RuntimeBuilder) (v : Bool) : RuntimeBuilder :=
  { b with explicit := { b.explicit with interruptible := some v } }

def trace (b : RuntimeBuilder) (v : Bool) : RuntimeBuilder :=
  { b with explicit := { b.explicit with trace := some v } }

def withEnvOverrides (b : RuntimeBuilder) : RuntimeBuilder := { b with envOverrides := true }

def loadToml (b : RuntimeBuilder) (text : String) : Except ConfigError RuntimeBuilder := do
  let s ← FileSettings.read text
  pure { b with base := s.apply b.base }

def resolve (b : RuntimeBuilder) (env : Environment) : Except ConfigError RuntimeConfig := do
  let c ← if b.envOverrides then env.apply b.base else pure b.base
  pure (b.explicit.apply c).normalize

def build (b : RuntimeBuilder) (env : Environment) : Except HostError RuntimeConfig :=
  match b.resolve env with
  | .error e => .error e.toHostError
  | .ok c =>
    if b.sharedClock && c.timeSource != .virtual then
      .error (HostError.internal "a shared virtual clock needs virtual time")
    else .ok c

def debug (b : RuntimeBuilder) : String :=
  let cfg := b.base.debug
  let ex := b.explicit.debug
  s!"RuntimeBuilder \x7b config: {cfg}, explicit: {ex}, env_overrides: {b.envOverrides}, shared_virtual_clock: {b.sharedClock} \x7d"

end RuntimeBuilder

end FiberEffects
