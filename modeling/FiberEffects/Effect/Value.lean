import FiberEffects.Json.Basic
import FiberEffects.Cause.Basic
import FiberEffects.Flags
import FiberEffects.Time.Schedule

namespace FiberEffects

/-- A clock over the heap's time source. -/
structure SourceClock where
  origin : Time
  start : Time
  deriving DecidableEq, Inhabited

namespace SourceClock

def time (c : SourceClock) (now : Time) : Time := Time.ofNat (now.nanos - c.origin.nanos)

def unixTime (c : SourceClock) (now : Time) : Time := c.start.add ⟨(c.time now).nanos⟩

def fork (c : SourceClock) (now : Time) : SourceClock := ⟨now, c.unixTime now⟩

def debug (c : SourceClock) (now : Time) : String :=
  s!"SourceClock \x7b start_time: {c.start.debug}, time: {(c.time now).debug} \x7d"

end SourceClock

/-- A scheduler as seen by its users: the shared core and the timer it reads time from. -/
structure SchedulerRef where
  core : Nat
  timer : SourceClock
  deriving DecidableEq, Inhabited

/-- A map of services keyed by their kind. -/
structure Context where
  greeting : Option Json := none
  clock : Option SourceClock := none
  timer : Option SourceClock := none
  scheduler : Option SchedulerRef := none
  ids : Option Nat := none
  rootScope : Option Nat := none
  deriving Inhabited

namespace Context

def empty : Context := {}

def size (c : Context) : Nat :=
  [c.greeting.isSome, c.clock.isSome, c.timer.isSome, c.scheduler.isSome, c.ids.isSome,
    c.rootScope.isSome].count true

def merge (c d : Context) : Context :=
  if d.size = 0 then c
  else ⟨d.greeting <|> c.greeting, d.clock <|> c.clock, d.timer <|> c.timer,
    d.scheduler <|> c.scheduler, d.ids <|> c.ids, d.rootScope <|> c.rootScope⟩

def debug (c : Context) : String := s!"Context \x7b services: {c.size} \x7d"

end Context

/-- What a fiber is started with. -/
structure Options where
  context : Context
  scope : Nat
  store : Nat
  flags : Flags
  deriving Inhabited

/-- How a fiber-reference value passes to a forked store. -/
inductive ForkPolicy where
  | copy
  | drop
  | custom (fn : Nat)
  deriving DecidableEq, Inhabited

/-- How a child's value is merged back into its parent's store. -/
inductive JoinPolicy where
  | keepParent
  | custom (fn : Nat)
  deriving DecidableEq, Inhabited

/-- A fiber reference: its slot, how its first value is made, and its fork and join policies. -/
structure FiberRef where
  id : RefId
  initial : Option Nat
  fork : ForkPolicy := .copy
  join : JoinPolicy := .keepParent
  deriving Inhabited

/-- A value flowing through a running effect. -/
inductive Val where
  | json (j : Json)
  | unit
  | bool (b : Bool)
  | nat (n : Nat)
  | time (t : Time)
  | flags (f : Flags)
  | context (c : Context)
  | options (o : Options)
  | fiberId (f : FiberId)
  | exit (e : Except (Cause Json) Val)
  | opt (v : Option Val)
  | list (vs : List Val)
  | fiber (k : Nat)
  | future (k : Nat)
  | effect (slot : Nat)
  | store (k : Nat)
  | scope (k : Nat)
  | resource (k : Nat)
  | disposable (k : Nat)
  | ref (r : FiberRef)
  | scheduler (s : SchedulerRef)
  | clock (c : SourceClock)
  | scheduleState (s : ScheduleState)
  deriving Inhabited

abbrev Exit := Except (Cause Json) Val

namespace Val

def toNat : Val → Nat
  | .nat n | .fiber n | .future n | .effect n | .store n | .scope n | .resource n | .disposable n => n
  | _ => 0

def toBool : Val → Bool
  | .bool b => b
  | _ => false

def toList : Val → List Val
  | .list vs => vs
  | _ => []

def toOption : Val → Option Val
  | .opt v => v
  | _ => none

end Val

end FiberEffects
