import FiberEffects.Text.Blank
import FiberEffects.Text.Quoted

namespace FiberEffects

/-- The kind of time source. -/
inductive TimeSource where
  | wall
  | virtual
  deriving DecidableEq, Inhabited

namespace TimeSource

def name : TimeSource → String
  | .wall => "wall"
  | .virtual => "virtual"

def debug : TimeSource → String
  | .wall => "Wall"
  | .virtual => "Virtual"

def parse (s : String) : Except String TimeSource :=
  match Text.asciiLower (Text.trimBlank s) with
  | "wall" | "system" => .ok .wall
  | "virtual" | "test" => .ok .virtual
  | other => .error ("expected `wall` or `virtual`, got " ++ Text.debugQuote other)

end TimeSource

end FiberEffects
