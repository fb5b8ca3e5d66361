import FiberEffects.Text.Quoted
import FiberEffects.Error

namespace FiberEffects

/-- Why a configuration could not be read. -/
inductive ConfigError where
  | invalidValue (name value reason : String)
  | unreadable (path reason : String)
  | malformed
  deriving Inhabited

namespace ConfigError

def display : ConfigError → String
  | .invalidValue name value reason =>
    let got := Text.debugQuote value
    s!"invalid value for {name}: {reason}, got {got}"
  | .unreadable path reason => s!"failed to read config file {path}: {reason}"
  | .malformed => "failed to parse TOML config"

def toHostError (e : ConfigError) : HostError := ⟨.config, some e.display, some e.display⟩

end ConfigError

end FiberEffects
