import FiberEffects.Host.Run
import FiberEffects.Script.Effects
import FiberEffects.Protocol.CauseOp
import FiberEffects.Heap.Debug
import FiberEffects.Protocol.Timers

namespace FiberEffects.Protocol

open Script

abbrev StepResult := Except (String × String) Json

/-- A running session: the runtime and the heap it lives in. -/
structure Session where
  runtime : Runtime
  heap : Heap

def buildFuel : Nat := 1000000

def buildScript (rt : Runtime) (j : Json) : Machine Effect :=
  Host.run (Script.build buildFuel rt Bindings.empty j)

def need (j : Json) (k : String) : Machine Json :=
  match req j k with
  | .ok v => pure v
  | .error m => throw (.panic m)

def decoded {α : Type} : Decode α → Machine α
  | .ok a => pure a
  | .error m => throw (.panic m)

def exitFutureDebug (id : FiberId) (done : Bool) : String :=
  let fid := id.debug
  s!"ExitFuture \x7b fiber: {fid}, done: {done} \x7d"

/-- The debug forms every `debug` step reports. -/
def runtimeDebug (rt : Runtime) (d : Data) : List (String × Json) :=
  let cfg := rt.config.debug
  let s := rt.services
  let sched := d.schedulerDebug s.scheduler.core
  let unix := (rt.now d).debug
  let ids := idGeneratorDebug (d.idGens[s.ids]?.getD 0)
  let root := d.scopeDebug s.rootScope
  let store := (d.store rt.store).debug
  let optScope := d.scopeDebug rt.scope
  let flags := rt.flags.debug
  let driver := d.driverDebug
  [("runtime", .str s!"Runtime \x7b config: {cfg}, driver: {driver}, .. \x7d"),
   ("config", .str cfg),
   ("services", .str (s!"DefaultServices \x7b unix_time: {unix}, scheduler: {sched}, " ++
      s!"id_generator: {ids}, root_scope: RootScope({root}) \x7d")),
   ("scheduler", .str sched),
   ("options", .str (s!"RuntimeOptions \x7b context: Context \x7b services: 0 \x7d, scope: {optScope}, " ++
      s!"fiber_refs: {store}, flags: {flags} \x7d")),
   ("virtual_clock", .str s!"VirtualClock \x7b now: {d.now.nanos} \x7d")]

def primitives : List Json :=
  [Effect.failCause .empty, Effect.await 0, Effect.getFlags, Effect.getStore,
    Effect.withStore (Effect.of (.json (.int 1))) 0, Effect.getOptions, Effect.getScope,
    Effect.traced (Effect.of (.json (.int 1))) "label"].map fun e => .str e.debug

def named {α : Type} (j : Json) (k : String) (find : String → Cmd α) : Machine α := do
  Host.run (find (← decoded (reqStr j k)))

def debugName (j : Json) (k : String) : Option String :=
  (opt j k).map fun | .str s => s | _ => ""

/-- Polls an exit future up to `max` times: each poll takes the exit if it is in, and otherwise
advances once and looks again. The exit and the number of polls, or none when still pending. -/
def pollExit (f : Nat) : Nat → Nat → Machine (Option Exit × Nat)
  | 0, done => return (none, done)
  | left + 1, done => do
    match (← Machine.book f).exit with
    | some exit => return (some exit, done + 1)
    | none =>
      discard Host.advance
      match (← Machine.book f).exit with
      | some exit => return (some exit, done + 1)
      | none => pollExit f left (done + 1)

def statusJson (d : Data) (f : Nat) : Json := .str (d.fiber f).status.name

/-- Runs one step. -/
def runStep (rt : Runtime) (j : Json) : Machine StepResult := do
  let step := textOrEmpty j "do"
  let data ← Machine.data
  match step with
  | "block_on" =>
    let e ← buildScript rt (← need j "effect")
    match ← Host.blockOn rt e with
    | .ok exit => return .ok (.mkObj [("exit", exitJson exit)])
    | .error err => return .error (err.kind.name, err.message.getD "")
  | "spawn" =>
    let name ← decoded (reqStr j "name")
    let i ← decoded (optBool j "interruptible")
    let t ← decoded (optBool j "trace")
    let flags : Option Flags := if i.isSome || t.isSome then
        some { interruptible := i.getD rt.flags.interruptible, trace := t.getD rt.flags.trace }
      else none
    let context ← match opt j "greeting" with
      | some x => do
        let g ← Host.run (evalIn Bindings.empty x)
        pure (some ({ greeting := some g } : Context))
      | none => pure none
    let store ← match ← decoded (optStr j "store") with
      | some s => some <$> Host.run (lookupStore s)
      | none => pure none
    let scope ← if (← decoded (optBool j "root_scope")) == some true then
        some <$> Machine.modifyGetData (·.newScope .none)
      else pure none
    let e ← buildScript rt (← need j "effect")
    let f ← Host.run do
      let cb ← Cmd.keepAction fun v =>
        Cmd.log (.mkObj [("exit_of", .str name), ("exit", valJson v)])
      rt.runWith e { context, scope, store, flags } (some cb)
    Host.run (bindName "fiber" name (.fiber f))
    let d ← Machine.data
    return .ok (.mkObj [("id", fiberIdJson (d.fiber f).id), ("status", statusJson d f)])
  | "poll" =>
    let f ← named j "fiber" lookupFiber
    let d ← Machine.data
    let b := d.fiber f
    let children := (d.children b.scope).map fun c => fiberIdJson (d.fiber c).id
    return .ok (.mkObj [("status", statusJson d f), ("exit", (b.exit.map exitJson).getD .null),
      ("children", .arr children)])
  | "interrupt" =>
    let f ← named j "fiber" lookupFiber
    let requester ← decoded (asFiberId ((opt j "by").getD .null))
    Host.run (Cmd.interrupt f requester)
    return .ok (.mkObj [("status", statusJson (← Machine.data) f)])
  | "observe" =>
    let f ← named j "fiber" lookupFiber
    let label ← decoded (reqStr j "label")
    let crash ← decoded (optStr j "panic")
    Host.run do
      let cb ← Cmd.keepAction fun v => do
        Cmd.log (.mkObj [("observer", .str label), ("exit", valJson v)])
        if let some m := crash then Cmd.panic m
      let d ← Cmd.observe f cb
      if let some h ← orPanic (optStr j "handle") then bindName "handle" h (.disposable d)
    return .ok .null
  | "dispose" =>
    let k ← named j "handle" lookupHandle
    Host.run (Cmd.dispose k)
    return .ok .null
  | "handle_state" =>
    let k ← named j "handle" lookupHandle
    return .ok (.bool ((← Machine.data).isDisposed k))
  | "future" =>
    let resolved ← match opt j "resolved" with
      | some e => some <$> buildScript rt e
      | none => pure none
    let name ← decoded (reqStr j "name")
    Host.run do
      let k ← Cmd.newFuture resolved
      bindName "future" name (.future k)
    return .ok .null
  | "complete" =>
    let k ← named j "future" lookupFuture
    let e ← buildScript rt (← need j "effect")
    return .ok (.bool (← Host.run (Cmd.complete k e)))
  | "future_observe" =>
    let k ← named j "future" lookupFuture
    let label ← decoded (reqStr j "label")
    let victim ← decoded (optStr j "dispose")
    let target ← decoded (optStr j "interrupt")
    Host.run do
      let cb ← Cmd.keepAction fun _ => do
        Cmd.log (.mkObj [("future_observer", .str label)])
        if let some h := victim then Cmd.dispose (← lookupHandle h)
        if let some t := target then Cmd.interrupt (← lookupFiber t) .none
      let d ← Cmd.watch k cb
      if let some h ← orPanic (optStr j "handle") then bindName "handle" h (.disposable d)
    return .ok .null
  | "future_state" =>
    let k ← named j "future" lookupFuture
    let b := (← Machine.data).future k
    return .ok (.mkObj [("resolved", .bool b.resolved), ("observers", .nat b.watchers.length),
      ("has_effect", .bool b.resolved)])
  | "drive" => return .ok (.nat (← Host.drive))
  | "advance" =>
    let ns ← decoded (reqNat j "ns")
    Machine.modifyData fun d => { d with now := d.now.addNanos ns }
    return .ok .null
  | "advance_to" =>
    let ns ← decoded (reqNat j "ns")
    Machine.modifyData fun d => { d with now := d.now.later (Time.ofNat ns) }
    return .ok .null
  | "set_time" =>
    let ns ← decoded (reqNat j "ns")
    Machine.modifyData fun d => { d with now := Time.ofNat ns }
    return .ok .null
  | "now" =>
    let cell := data.core rt.services.scheduler.core
    return .ok (.mkObj [("now", .nat (rt.now data).nanos), ("clock", .nat data.now.nanos),
      ("timers", .nat data.timers.size), ("tasks", .nat cell.timeline.size),
      ("armed", .bool cell.armed.isSome), ("disposed", .bool cell.disposed)])
  | "schedule_task" | "forked_task" =>
    let label ← decoded (reqStr j "label")
    let ns ← decoded (reqNat j "ns")
    let forked := step == "forked_task"
    let s := rt.services.scheduler
    let s := if forked then s.fork data.now else s
    let added ← Host.run do
      let task ← Cmd.keepAction fun _ => Cmd.log (.mkObj [("task", .str label)])
      let added ← Cmd.scheduleTask s ⟨ns⟩ task
      if !forked then
        if let some d := added then
          if let some h ← orPanic (optStr j "handle") then bindName "handle" h (.disposable d)
      pure added
    return .ok (.bool added.isSome)
  | "scheduler_dispose" =>
    Host.run (Cmd.disposeScheduler rt.services.scheduler.core)
    return .ok .null
  | "clocks" =>
    let s := rt.services
    let now := data.now
    let forked := (s.scheduler.fork now).timer
    return .ok (.mkObj [("clock", clockReadings s.clock now), ("timer", clockReadings s.timer now),
      ("scheduler", clockReadings s.scheduler.timer now), ("forked_scheduler", clockReadings forked now),
      ("forked_timer", clockReadings forked now), ("forked_clock", clockReadings (s.clock.fork now) now)])
  | "more_clocks" =>
    let t := rt.services.scheduler.timer
    return .ok (.mkObj [("scheduler", clockReadings t data.now),
      ("scheduler_fork_clock", clockReadings (t.fork data.now) data.now)])
  | "run_exit" | "run" =>
    let maxPolls := (← decoded (optNat j "max_polls")).getD 100
    let e ← buildScript rt (← need j "effect")
    let f ← Host.run (rt.runWith e {} none)
    let debug := (← decoded (optBool j "debug")).getD false
    let id := ((← Machine.data).fiber f).id
    let before := exitFutureDebug id ((← Machine.data).fiber f).exit.isSome
    if step == "run" && debug then
      return .ok (.mkObj [("debug", .str s!"RunFuture({before})")])
    let (exit, polls) ← pollExit f maxPolls 0
    let extra : List (String × Json) :=
      if debug then [("fiber_id", fiberIdJson id), ("debug_before", .str before)] else []
    match exit with
    | some exit =>
      if step == "run" then
        match exit with
        | .ok v => return .ok (.mkObj [("ok", valJson v), ("polls", .nat polls)])
        | .error c => return .ok (.mkObj [("display", .str ("effect failed: " ++ causeDisplay c)),
            ("cause", causeJson c), ("polls", .nat polls)])
      else return .ok (.mkObj ([("exit", exitJson exit), ("polls", .nat polls)] ++ extra))
    | none =>
      let doneNow := ((← Machine.data).fiber f).exit.isSome
      let after := if debug then [("debug_after", Json.str (exitFutureDebug id doneNow))] else []
      return .ok (.mkObj ([("pending", .bool true), ("polls", .nat polls)] ++ extra ++ after))
  | "debug" =>
    let effects ← match opt j "effects" with
      | some (.arr es) => do
        let built ← es.mapM (buildScript rt)
        pure [("effects", Json.arr (built.map fun e => .str e.debug))]
      | some _ => throw (.panic "bad input: effects must be an array")
      | none => pure []
    let prims := if (← decoded (optBool j "primitives")) == some true then
      [("primitives", Json.arr primitives)] else []
    let fiber ← match ← decoded (optStr j "fiber") with
      | some name => do
        let f ← Host.run (lookupFiber name)
        let d ← Machine.data
        let b := d.fiber f
        pure [("fiber", Json.str "Fiber \x7b .. \x7d"), ("fiber_scope", .str (d.scopeDebug b.scope)),
          ("fiber_scope_id", fiberIdJson (d.scopeId b.scope))]
      | none => pure []
    let future ← match debugName j "future" with
      | some name => do
        let k ← Host.run (lookupFuture name)
        pure [("future", Json.str ((← Machine.data).future k).debug)]
      | none => pure []
    let store ← match debugName j "store" with
      | some name => do
        let s ← Host.run (lookupStore name)
        pure [("store", Json.str ((← Machine.data).store s).debug)]
      | none => pure []
    let scope ← match debugName j "scope" with
      | some name => do
        let r ← Host.run (lookupScope name)
        pure [("scope", Json.str ((← Machine.data).resource r).debug)]
      | none => pure []
    let handle ← match debugName j "handle" with
      | some name => do
        let k ← Host.run (lookupHandle name)
        pure [("handle", Json.str (disposableDebug ((← Machine.data).isDisposed k)))]
      | none => pure []
    let d ← Machine.data
    return .ok (.mkObj (runtimeDebug rt d ++ effects ++ prims ++ fiber ++ future ++ store ++ scope ++ handle))
  | "ref_new" =>
    let name ← decoded (reqStr j "name")
    Host.run do
      let r ← Script.newRef buildFuel rt Bindings.empty j
      bindName "ref" name (.ref r)
    return .ok .null
  | "store_new" =>
    let bare := (← decoded (optBool j "bare")).getD false
    let name ← decoded (reqStr j "name")
    Host.run do
      let s ← Cmd.modify (·.newStore {})
      if !bare then rt.install s
      bindName "store" name (.store s)
    return .ok .null
  | "store_set" =>
    let s ← named j "store" lookupStore
    let r ← named j "ref" lookupRef
    let v ← Host.run (evalIn Bindings.empty (← need j "value"))
    Host.run (Cmd.storeSet s r (.json v))
    return .ok .null
  | "store_get" =>
    let s ← named j "store" lookupStore
    let r ← named j "ref" lookupRef
    return .ok (valJson (.opt (((← Machine.data).store s).get? r.id)))
  | "store_delete" =>
    let s ← named j "store" lookupStore
    let r ← named j "ref" lookupRef
    return .ok (valJson (.opt (← Host.run (Cmd.storeDelete s r))))
  | "store_fork" =>
    let s ← named j "store" lookupStore
    let name ← decoded (reqStr j "name")
    Host.run do
      let c ← Cmd.forkStore s
      bindName "store" name (.store c)
    return .ok .null
  | "store_join" =>
    let child ← named j "child" lookupStore
    let parent ← named j "parent" lookupStore
    Host.run (Cmd.joinInto child parent)
    return .ok .null
  | "store_info" =>
    let s ← named j "store" lookupStore
    let names ← Host.run (storeNames s)
    return .ok (.mkObj [("len", .nat names.length), ("empty", .bool names.isEmpty),
      ("refs", strings names)])
  | other => throw (.panic s!"bad input: unknown step {other}")

/-- The answer of one step, with the log entries it appended. -/
def stepAnswer (rt : Runtime) (j : Json) : StateM Heap Json := do
  let before := (← get).data.log.size
  let r ← (runStep rt j).run
  let log := Json.arr ((← get).data.log.toList.drop before)
  match r with
  | .ok (.ok v) => return .mkObj [("result", v), ("log", log)]
  | .ok (.error (kind, m)) => return .mkObj [("error", .str kind), ("message", .str m), ("log", log)]
  | .error (.panic m) => return .mkObj [("error", .str "panic"), ("message", .str m), ("log", log)]
  | .error .outOfFuel =>
    return .mkObj [("error", .str "panic"), ("message", .str "out of fuel"), ("log", log)]

/-- Opens a session: a virtual clock at `clock_ns`, a start time of `start_ms` milliseconds, and
the flags given. -/
def Session.open (cfg : Json) : Decode Session := do
  let clock := (← optNat cfg "clock_ns").getD 0
  let start := (← optNat cfg "start_ms").getD 0
  let i ← optBool cfg "interruptible"
  let t ← optBool cfg "trace"
  let raw : RuntimeConfig := { timeSource := .virtual, startTime := some (Time.ofMillis start),
                                interruptible := i.getD true, trace := t.getD true }
  let config := raw.normalize
  let d : Data := { now := Time.ofNat clock }
  let (rt, d) := Runtime.assemble config true d
  pure { runtime := rt, heap := { data := d } }

def sessionAnswer (j : Json) : Decode Json := do
  let s ← Session.open ((opt j "config").getD (.obj []))
  let steps ← reqList j "steps"
  let answers := (Id.run ((steps.mapM (stepAnswer s.runtime)).run s.heap)).1
  pure (.mkObj [("steps", .arr answers)])

end FiberEffects.Protocol
