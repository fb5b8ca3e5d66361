import FiberEffects.Fiber.Fork
import FiberEffects.Time.Scheduler
import FiberEffects.Resource.Scope
import FiberEffects.Config.Runtime

namespace FiberEffects

/-- The services a runtime installs. -/
structure Services where
  clock : SourceClock
  timer : SourceClock
  scheduler : SchedulerRef
  ids : Nat
  rootScope : Nat
  deriving Inhabited

def Services.context (s : Services) : Context :=
  { clock := some s.clock, timer := some s.timer, scheduler := some s.scheduler, ids := some s.ids,
    rootScope := some s.rootScope }

/-- A runtime over the heap. -/
structure Runtime where
  config : RuntimeConfig
  isVirtual : Bool
  services : Services
  store : Nat
  scope : Nat
  deriving Inhabited

/-- What a run may replace in the options a fiber starts with. -/
structure Overrides where
  context : Option Context := none
  scope : Option Nat := none
  store : Option Nat := none
  flags : Option Flags := none

namespace Runtime

def flags (rt : Runtime) : Flags := rt.config.flags

/-- Builds a runtime on the heap's time source: its timer starts at the configured unix time
(the origin when none is given), and its clock is forked from the timer. -/
def assemble (config : RuntimeConfig) (isVirtual : Bool) (d : Data) : Runtime × Data :=
  let start := config.startTime.getD Time.zero
  let timer : SourceClock := ⟨d.now, start⟩
  let clock := timer.fork d.now
  let (core, d) := d.newCore timer
  let (ids, d) := d.newIdGen 0
  let (root, d) := d.newScope .none
  let services : Services := { clock, timer, scheduler := ⟨core, timer⟩, ids, rootScope := root }
  let (store, d) := d.newStore ((({} : StoreCell).set FiberRef.services (.context services.context)))
  let (scope, d) := d.newScope .none
  ({ config, isVirtual, services, store, scope }, d)

def install (rt : Runtime) (s : Nat) : Cmd Unit :=
  Cmd.storeSet s FiberRef.services (.context rt.services.context)

/-- Starts a fiber running an effect with the runtime's options as overridden; the observer (a
kept callback), if any, is registered before the start. -/
def runWith (rt : Runtime) (e : Effect) (ov : Overrides) (observer : Option Nat) : Cmd Nat := do
  let seq ← Cmd.modify (·.nextId rt.services.ids)
  let now ← Cmd.clockUnixTime rt.services.clock
  let id := FiberId.live seq now
  let store ← match ov.store with
    | some s => do
      if ← Cmd.read fun d => (d.ambient s).isNone then rt.install s
      pure s
    | none => Cmd.forkStore rt.store
  let scope ← match ov.scope with
    | some s => pure s
    | none => Cmd.modify (·.newScope id)
  let opts : Options :=
    { context := ov.context.getD Context.empty, scope, store, flags := ov.flags.getD rt.flags }
  let f ← Cmd.newFiber e id opts
  if let some cb := observer then discard <| Cmd.observe f cb
  discard <| Cmd.start f
  pure f

def now (rt : Runtime) (d : Data) : Time := rt.services.clock.unixTime d.now

end Runtime

end FiberEffects
