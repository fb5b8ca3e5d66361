import FiberEffects.Protocol.Session
import FiberEffects.Protocol.ConfigOp

namespace FiberEffects.Protocol

open Script

/-- The configuration `with_config` takes. -/
def ctorConfig (j : Json) : Decode RuntimeConfig := do
  let timeSource ← match opt j "time_source" with
    | some t =>
      match TimeSource.parse (match t with | .str s => s | _ => "") with
      | .ok k => pure k
      | .error m => badInput m
    | none => pure TimeSource.wall
  let start ← optNat j "start_ms"
  let interruptible ← optBool j "interruptible"
  let trace ← optBool j "trace"
  let c : RuntimeConfig := { timeSource, startTime := start.map Time.ofMillis,
                             interruptible := interruptible.getD true, trace := trace.getD true }
  pure c.normalize

/-- Runs an effect script on a new runtime to its exit: the answer of the run and the log. -/
def runOnNewRuntime (config : RuntimeConfig) (script : Json) : Decode (Json × Json) :=
  let (rt, d) := Runtime.assemble config (config.timeSource == .virtual) {}
  let run : Machine (Except HostError Exit) := do Host.blockOn rt (← buildScript rt script)
  match run.run.run { data := d } with
  | (.ok r, heap) =>
    let answer := match r with
      | .ok exit => Json.mkObj [("exit", exitJson exit)]
      | .error err => hostErrorJson err false
    pure (answer, .arr heap.data.log.toList)
  | (.error (.panic m), _) => .error m
  | (.error .outOfFuel, _) => .error "out of fuel"

/-- The answer to a `runtime_ctor` request. -/
def runtimeCtorAnswer (j : Json) : Decode Json := do
  let config ← match ← reqStr j "ctor" with
    | "new" | "default" => pure ({} : RuntimeConfig).normalize
    | "with_config" => ctorConfig ((opt j "config").getD (.obj []))
    | other => badInput s!"unknown ctor {other}"
  let fields := [("config", configJson config), ("virtual", .bool (config.timeSource == .virtual))]
  match opt j "effect" with
  | none => pure (.mkObj fields)
  | some script =>
    let (answer, log) ← runOnNewRuntime config script
    pure (.mkObj (fields ++ [("run", answer), ("log", log)]))

end FiberEffects.Protocol
