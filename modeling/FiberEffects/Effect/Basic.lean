import FiberEffects.Effect.Prog
import FiberEffects.Heap.Data
import FiberEffects.Text.Quoted

namespace FiberEffects

/-- What a synchronous step gives: a value, an expected error, or a defect. -/
inductive SyncOutcome where
  | value (v : Val)
  | expected (error : Json)
  | defect (message : String)
  deriving Inhabited

mutual

/-- An effect: an instruction and an optional trace label. -/
inductive Effect where
  | mk (instr : Instr) (trace : Option String)

/-- The instructions of the fiber machine. -/
inductive Instr where
  | of (v : Val)
  | fail (cause : Cause Json)
  | sync (run : Prog Request Val SyncOutcome)
  | suspend (build : Prog Request Val Effect)
  | stored (slot : Nat)
  | apply (builder : Nat) (arg : Val)
  | map (e : Effect) (f : Val → Prog Request Val Val)
  | flatMap (e : Effect) (f : Val → Prog Request Val Effect)
  | mapCause (e : Effect) (f : Cause Json → Prog Request Val (Cause Json))
  | flatMapCause (e : Effect) (f : Cause Json → Prog Request Val Effect)
  | fold (e : Effect) (onCause : Cause Json → Prog Request Val Effect)
      (onValue : Val → Prog Request Val Effect)
  | access (f : Context → Prog Request Val Effect)
  | provide (e : Effect) (context : Context)
  | await (future : Nat)
  | setInterruptible (e : Effect) (on : Bool)
  | updateFlags (e : Effect) (f : Flags → Flags)
  | getFlags
  | getStore
  | withStore (e : Effect) (store : Nat)
  | getOptions
  | getScope

/-- What a running effect may ask of the heap. -/
inductive Request where
  | data (f : Data → Data × Val)
  | keepFn (f : Val → Prog Request Val Val)
  | keepBuilder (f : Nat → Val → Prog Request Val Effect)
  | call (fn : Nat) (arg : Val)
  | keepEffect (e : Effect)
  | build (builder : Nat) (arg : Val)
  | dispose (disposable : Nat)
  | newFuture (resolved : Option Effect)
  | complete (future : Nat) (e : Effect)
  | newFiber (e : Effect) (id : FiberId) (options : Options)
  | start (fiber : Nat)
  | interrupt (fiber : Nat) (requester : FiberId)
  | observe (fiber cb : Nat)
  | watch (future cb : Nat)

end

abbrev Cmd := Prog Request Val

instance : Inhabited Effect := ⟨.mk (.of .unit) none⟩

namespace Instr

/-- The instruction's name as the debug form shows it. -/
def name : Instr → String
  | .of _ => "Of"
  | .fail _ => "FromCause"
  | .sync _ => "Sync"
  | .suspend _ | .stored _ | .apply _ _ => "Lazy"
  | .map _ _ => "Map"
  | .flatMap _ _ => "FlatMap"
  | .mapCause _ _ => "MapCause"
  | .flatMapCause _ _ => "FlatMapCause"
  | .fold _ _ _ => "Match"
  | .access _ => "AccessContext"
  | .provide _ _ => "ProvideContext"
  | .await _ => "Async"
  | .setInterruptible _ _ => "SetInterruptStatus"
  | .updateFlags _ _ => "UpdateRuntimeFlags"
  | .getFlags => "GetRuntimeFlags"
  | .getStore => "GetFiberRefs"
  | .withStore _ _ => "WithFiberRefs"
  | .getOptions => "GetRuntimeOptions"
  | .getScope => "GetFiberScope"

end Instr

namespace Effect

def instr : Effect → Instr
  | .mk i _ => i

def trace : Effect → Option String
  | .mk _ t => t

def node (i : Instr) : Effect := .mk i none

def debug (e : Effect) : String :=
  let label := match e.trace with
    | some l => "Some(" ++ Text.debugQuote l ++ ")"
    | none => "None"
  s!"Effect \x7b instruction: \"{e.instr.name}\", trace: {label} \x7d"

end Effect

end FiberEffects
