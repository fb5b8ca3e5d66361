import FiberEffects.Time.Basic

namespace FiberEffects

/-- The input of one step: when the run ended and the pause that preceded it. -/
structure ScheduleInput where
  time : Time
  delay : Option Duration

/-- What a schedule remembers between steps. -/
structure ScheduleState where
  start : Time
  iterations : UInt64
  previousTime : Option Time
  previousDelay : Option Duration
  currentDelay : Duration
  deriving Inhabited

/-- Whether to run again, and after which pause. -/
inductive ScheduleDecision where
  | continue (delay : Option Duration)
  | done
  deriving Inhabited

/-- A repetition policy. -/
inductive Schedule where
  | recurs (n : Nat)
  | spaced (pause : Duration)
  | exponential (base : Duration) (factor : Float) (maxRetries : Nat)
  | take (inner : Schedule) (max : Nat)
  deriving Inhabited

namespace ScheduleState

def initial (start : Time) : ScheduleState := ⟨start, 0, none, none, Duration.zero⟩

def advance (s : ScheduleState) (input : ScheduleInput) (delay : Option Duration) : ScheduleState :=
  ⟨s.start, s.iterations + 1, some input.time, input.delay, delay.getD Duration.zero⟩

def elapsed (s : ScheduleState) : Duration :=
  match s.previousTime with
  | some t => t.since s.start
  | none => Duration.zero

end ScheduleState

def powByParts (a : Float) (n : Nat) : Float := go a n 1.0
where
  go (a : Float) (n : Nat) (r : Float) : Float :=
    let r := if n % 2 = 1 then r * a else r
    if n / 2 = 0 then r else go (a * a) (n / 2) r
  termination_by n
  decreasing_by omega

def exponentialPause (base : Duration) (factor : Float) (retry : Nat) : Duration :=
  let exponent := Nat.min retry (Nat.pow 2 31 - 1)
  let nanos := base.nanos.toFloat * powByParts factor exponent
  if !nanos.isFinite || Float.ofNat (Nat.pow 2 64) ≤ nanos then Duration.max
  else ⟨(if nanos < 0 then (0 : Float) else nanos).round.toUInt64.toNat⟩

namespace Schedule

/-- One step of a policy. -/
def step : Schedule → ScheduleState → ScheduleInput → ScheduleState × ScheduleDecision
  | .recurs n, s, input =>
    let next := s.advance input none
    (next, if next.iterations.toNat ≤ n then .continue none else .done)
  | .spaced pause, s, input =>
    let delay := if 0 < s.iterations then some pause else none
    (s.advance input delay, .continue delay)
  | .exponential base factor maxRetries, s, input =>
    let stepNo := s.iterations + 1
    if stepNo = 1 then (s.advance input none, .continue none)
    else
      let retry := stepNo - 2
      if maxRetries ≤ retry.toNat then (s.advance input none, .done)
      else
        let delay := exponentialPause base factor retry.toNat
        (s.advance input (some delay), .continue (some delay))
  | .take inner max, s, input =>
    let (next, decision) := inner.step s input
    if max < next.iterations.toNat then (next, .done) else (next, decision)

end Schedule

end FiberEffects
