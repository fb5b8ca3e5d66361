namespace FiberEffects

/-- What went wrong at host level. -/
inductive ErrorKind where
  | stalled
  | config
  | internal
  deriving DecidableEq, Inhabited

/-- The broad class of an error kind. -/
inductive ErrorCategory where
  | runtime
  | configuration
  | internal
  deriving DecidableEq, Inhabited

namespace ErrorKind

def name : ErrorKind → String
  | .stalled => "Stalled"
  | .config => "Config"
  | .internal => "Internal"

def category : ErrorKind → ErrorCategory
  | .stalled => .runtime
  | .config => .configuration
  | .internal => .internal

end ErrorKind

def ErrorCategory.name : ErrorCategory → String
  | .runtime => "Runtime"
  | .configuration => "Configuration"
  | .internal => "Internal"

/-- A host-level error. `source` is the text of the underlying error, if any. -/
structure HostError where
  kind : ErrorKind
  message : Option String
  source : Option String := none
  deriving Inhabited

namespace HostError

def display (e : HostError) : String :=
  match e.message with
  | some m => e.kind.name ++ ": " ++ m
  | none => e.kind.name

def stalled (detail : String) : HostError := ⟨.stalled, some detail, none⟩

def internal (detail : String) : HostError := ⟨.internal, some detail, none⟩

end HostError

end FiberEffects
