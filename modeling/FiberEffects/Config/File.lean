import FiberEffects.Config.Toml
import FiberEffects.Config.Runtime
import FiberEffects.Config.Error
import FiberEffects.Config.FileTree

namespace FiberEffects

/-- The settings a configuration file gives. -/
structure FileSettings where
  timeSource : Option TimeSource := none
  startMillis : Option Nat := none
  interruptible : Option Bool := none
  trace : Option Bool := none
  deriving Inhabited

namespace FileSettings

def timeSourceNamed : String → Option TimeSource
  | "wall" => some .wall
  | "virtual" => some .virtual
  | _ => none

def isEmptyContainer : Toml.Value → Bool
  | .table _ [] | .array [] | .tables [] => true
  | _ => false

def timeSourceOf : Toml.Value → Option TimeSource
  | .str s => timeSourceNamed s
  | .table _ [(k, v)] => if isEmptyContainer v then timeSourceNamed k else none
  | _ => none

def unsignedOf : Toml.Value → Option Nat
  | .int n => if 0 ≤ n then some n.toNat else none
  | _ => none

def boolOf : Toml.Value → Option Bool
  | .bool b => some b
  | _ => none

def setting {α : Type} (v : Option Toml.Value) (f : Toml.Value → Option α) : Option (Option α) :=
  match v with
  | none => some none
  | some v => some <$> f v

def sectionPair (first second : String) : Toml.Value → Option (Option Toml.Value × Option Toml.Value)
  | .table _ fs => some (Toml.Fields.get? fs first, Toml.Fields.get? fs second)
  | .array (a :: b :: _) | .tables (a :: b :: _) => some (some a, some b)
  | _ => none

/-- Reads the settings of one top-level key into the settings so far. -/
def addSection (s : FileSettings) : String × Toml.Value → Option FileSettings
  | ("clock", v) => do
    let (ts, start) ← sectionPair "time_source" "start_time_ms" v
    let timeSource ← setting ts timeSourceOf
    let startMillis ← setting start unsignedOf
    some { s with timeSource, startMillis }
  | ("fibers", v) => do
    let (i, t) ← sectionPair "interruptible" "trace" v
    let interruptible ← setting i boolOf
    let trace ← setting t boolOf
    some { s with interruptible, trace }
  | _ => none

def ofFields (fs : Toml.Fields) : Option FileSettings := fs.foldlM addSection {}

def read (text : String) : Except ConfigError FileSettings :=
  match (Toml.read text).bind ofFields with
  | some s => .ok s
  | none => .error .malformed

end FileSettings

def readConfigFile (path : String) : Except ConfigError String :=
  match FileTree.configRoot.read FileTree.emptyDir path with
  | .ok text => .ok text
  | .error e => .error (.unreadable path e.message)

namespace FileSettings

def apply (s : FileSettings) (c : RuntimeConfig) : RuntimeConfig :=
  { timeSource := s.timeSource.getD c.timeSource
    startTime := match s.startMillis with
      | some ms => some (Time.ofMillis ms)
      | none => c.startTime
    interruptible := s.interruptible.getD c.interruptible
    trace := s.trace.getD c.trace }

end FileSettings

end FiberEffects
