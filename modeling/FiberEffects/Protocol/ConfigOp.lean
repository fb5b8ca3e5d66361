import FiberEffects.Config.Builder
import FiberEffects.Protocol.Decode
import FiberEffects.Script.Values

namespace FiberEffects.Protocol

def configJson (c : RuntimeConfig) : Json :=
  .mkObj [("time_source", .str c.timeSource.name),
    ("start_time", (c.startTime.map fun t => Json.nat t.nanos).getD .null),
    ("interruptible", .bool c.interruptible), ("trace", .bool c.trace),
    ("flags", Script.flagsJson c.flags)]

def hostErrorJson (e : HostError) (withSource : Bool) : Json :=
  let fields := [("error", Json.str e.kind.name), ("message", .str (e.message.getD ""))]
  if withSource && e.kind == .config then
    .mkObj (fields ++ [("source", (e.source.map Json.str).getD .null)])
  else .mkObj fields

abbrev Answering := ExceptT Json Decode

def decodeStep {α : Type} (d : Decode α) : Answering α := ExceptT.lift d

def configStep {α : Type} (withSource : Bool) : Except ConfigError α → Answering α
  | .ok a => pure a
  | .error e => throw (hostErrorJson e.toHostError withSource)

def presetBuilder : String → Decode RuntimeBuilder
  | "new" | "default" | "runtime_builder" => pure {}
  | "deterministic" => pure RuntimeBuilder.deterministic
  | other => badInput s!"unknown preset {other}"

/-- Reads a base configuration: the defaults with the fields given, normalised when the key
`normalize` is present. -/
def baseConfig (j : Json) : Answering RuntimeConfig := do
  let timeSource ← match ← decodeStep (optStr j "time_source") with
    | some t =>
      match TimeSource.parse t with
      | .ok k => pure k
      | .error m => throw (.mkObj [("error", .str "TimeSourceKind"), ("message", .str m)])
    | none => pure TimeSource.wall
  let start ← decodeStep (optNat j "start_ms")
  let interruptible ← decodeStep (optBool j "interruptible")
  let trace ← decodeStep (optBool j "trace")
  let c : RuntimeConfig := { timeSource, startTime := start.map Time.ofMillis,
                             interruptible := interruptible.getD true, trace := trace.getD true }
  pure (if present j "normalize" then c.normalize else c)

def builderCall (b : RuntimeBuilder) (j : Json) : Decode RuntimeBuilder := do
  if present j "virtual_time" then return b.virtualTime
  if present j "wall_time" then return b.wallTime
  if present j "shared_clock" then return b.withVirtualClock
  if let some ms ← optNat j "start_ms" then return b.startAt (Time.ofMillis ms)
  if let some v ← optBool j "interruptible" then return b.interruptible v
  if let some v ← optBool j "trace" then return b.trace v
  badInput "unknown builder method"

/-- The environment the variables of an object give, set in key order: every value must be a
string, and a refused variable stops with the panic message. -/
def environmentOf : List (String × Json) → Environment → Decode Environment
  | [], env => pure env
  | (k, v) :: rest, env => do
    let value ← match v with
      | .str s => pure s
      | _ => badInput "env values must be strings"
    match env.set k value with
    | .ok env => environmentOf rest env
    | .error m => .error m

/-- The answer to a `config` request, or the answer it stopped with. -/
def configSteps (j : Json) : Answering Json := do
  let preset := match opt j "preset" with
    | some (.str p) => p
    | _ => "new"
  let mut b ← decodeStep (presetBuilder preset)
  let withSource := (← decodeStep (optBool j "source")).getD false
  if let some base := opt j "base" then b := b.withBase (← baseConfig base)
  if let some text ← decodeStep (optStr j "toml") then b ← configStep withSource (b.loadToml text)
  if let some text ← decodeStep (optStr j "toml_file") then
    b ← configStep withSource (b.loadToml text)
  if let some path ← decodeStep (optStr j "toml_path") then
    let text ← configStep withSource (readConfigFile path)
    b ← configStep withSource (b.loadToml text)
  let env ← match opt j "env" with
    | some (.obj fields) => decodeStep (environmentOf fields [])
    | some _ => decodeStep (badInput "env must be an object")
    | none => pure []
  if (opt j "env").isSome then b := b.withEnvOverrides
  let calls := match opt j "builder" with
    | some (.arr calls) => calls
    | _ => []
  for call in calls do
    b ← decodeStep (builderCall b call)
  let debug := (← decodeStep (optBool j "debug")).getD false
  let builderDebug := b.debug
  let config ← configStep withSource (b.resolve env)
  let debugFields : List (String × Json) :=
    if debug then [("builder_debug", .str builderDebug), ("config_debug", .str config.debug)]
    else []
  let built : List (String × Json) ←
    if (← decodeStep (optBool j "build")).getD false then
      match b.build env with
      | .ok c => pure [("build", .mkObj [("ok", configJson c)])]
      | .error e => pure [("build", hostErrorJson e withSource)]
    else pure []
  pure (.mkObj ([("config", configJson config)] ++ debugFields ++ built))

def configAnswer (j : Json) : Decode Json := do
  match ← (configSteps j).run with
  | .ok v => pure v
  | .error answer => pure answer

end FiberEffects.Protocol
