import FiberEffects.Effect.Basic

namespace FiberEffects

/-- How a result travels through a request's answer. -/
class Answer (α : Type) where
  toVal : α → Val
  ofVal : Val → α

instance : Answer Val := ⟨id, id⟩
instance : Answer Unit := ⟨fun _ => .unit, fun _ => ()⟩
instance : Answer Nat := ⟨.nat, Val.toNat⟩
instance : Answer Bool := ⟨.bool, Val.toBool⟩
instance : Answer Time := ⟨.time, fun | .time t => t | _ => Time.zero⟩
instance : Answer FiberId := ⟨.fiberId, fun | .fiberId f => f | _ => .none⟩
instance : Answer SourceClock := ⟨.clock, fun | .clock c => c | _ => default⟩
instance : Answer SchedulerRef := ⟨.scheduler, fun | .scheduler s => s | _ => default⟩

instance : Answer TimerTask :=
  ⟨fun | .callback fn c => .list [.nat fn, .clock c] | .scheduler k => .nat k,
   fun | .list [.nat fn, .clock c] => .callback fn c | v => .scheduler v.toNat⟩

instance {α : Type} [Answer α] : Answer (Option α) :=
  ⟨fun o => .opt (o.map Answer.toVal), fun v => v.toOption.map Answer.ofVal⟩

instance {α β : Type} [Answer α] [Answer β] : Answer (α × β) :=
  ⟨fun (a, b) => .list [Answer.toVal a, Answer.toVal b],
   fun v => match v with
    | .list [a, b] => (Answer.ofVal a, Answer.ofVal b)
    | _ => (Answer.ofVal .unit, Answer.ofVal .unit)⟩

instance : Answer FiberRef := ⟨.ref, fun | .ref r => r | _ => { id := RefId.defaultServices, initial := none }⟩

instance : Answer RefId :=
  ⟨fun r => .ref { id := r, initial := none }, fun | .ref r => r.id | _ => RefId.defaultServices⟩

instance : Answer Exit := ⟨.exit, fun | .exit e => e | v => .ok v⟩

instance {α : Type} [Answer α] : Answer (List α) :=
  ⟨fun xs => .list (xs.map Answer.toVal), fun v => v.toList.map Answer.ofVal⟩

namespace Cmd

def modify {α : Type} [Answer α] (f : Data → α × Data) : Cmd α := do
  let v ← Prog.ask (.data fun d => let (a, d') := f d; (d', Answer.toVal a))
  pure (Answer.ofVal v)

def read {α : Type} [Answer α] (f : Data → α) : Cmd α := modify fun d => (f d, d)

def update (f : Data → Data) : Cmd Unit := modify fun d => ((), f d)

def log (entry : Json) : Cmd Unit := update (·.record entry)

def keepFn (f : Val → Cmd Val) : Cmd Nat := Val.toNat <$> Prog.ask (.keepFn f)

def keepAction (f : Val → Cmd Unit) : Cmd Nat := keepFn fun v => do f v; pure .unit

def keepBuilder (f : Val → Cmd Effect) : Cmd Nat := Val.toNat <$> Prog.ask (.keepBuilder fun _ => f)

def keepSelfBuilder (f : Nat → Val → Cmd Effect) : Cmd Nat :=
  Val.toNat <$> Prog.ask (.keepBuilder f)

def call (fn : Nat) (arg : Val) : Cmd Val := Prog.ask (.call fn arg)

def keepEffect (e : Effect) : Cmd Nat := Val.toNat <$> Prog.ask (.keepEffect e)

def build (builder : Nat) (arg : Val) : Cmd Nat := Val.toNat <$> Prog.ask (.build builder arg)

def panic {α : Type} (message : String) : Cmd α := Prog.panic message

def newDisposable (r : Option Release) : Cmd Nat := modify (·.newDisposable r)

def disposableOf (action : Cmd Unit) : Cmd Nat := do
  let k ← keepAction fun _ => action
  newDisposable (some (.callback k))

def isDisposed (k : Nat) : Cmd Bool := read (·.isDisposed k)

end Cmd

namespace Effect

def of (v : Val) : Effect := node (.of v)

def unit : Effect := of .unit

def failCause (c : Cause Json) : Effect := node (.fail c)

def fromExit : Exit → Effect
  | .ok v => of v
  | .error c => failCause c

def sync (run : Cmd Val) : Effect := node (.sync (SyncOutcome.value <$> run))

def trySync (run : Cmd SyncOutcome) : Effect := node (.sync run)

def fail (error : Json) : Effect := trySync (pure (.expected error))

def die (message : String) : Effect := trySync (pure (.defect message))

def suspend (build : Cmd Effect) : Effect := node (.suspend build)

def map (e : Effect) (f : Val → Cmd Val) : Effect := node (.map e f)

def mapPure (e : Effect) (f : Val → Val) : Effect := map e fun v => pure (f v)

def flatMap (e : Effect) (f : Val → Cmd Effect) : Effect := node (.flatMap e f)

def mapCause (e : Effect) (f : Cause Json → Cmd (Cause Json)) : Effect := node (.mapCause e f)

def flatMapCause (e : Effect) (f : Cause Json → Cmd Effect) : Effect := node (.flatMapCause e f)

def fold (e : Effect) (onCause : Cause Json → Cmd Effect) (onValue : Val → Cmd Effect) : Effect :=
  node (.fold e onCause onValue)

def access (f : Context → Cmd Effect) : Effect := node (.access f)

def provide (e : Effect) (context : Context) : Effect := node (.provide e context)

def await (future : Nat) : Effect := node (.await future)

def setInterruptible (e : Effect) (on : Bool) : Effect := node (.setInterruptible e on)

def uninterruptible (e : Effect) : Effect := setInterruptible e false

def interruptible (e : Effect) : Effect := setInterruptible e true

def updateFlags (e : Effect) (f : Flags → Flags) : Effect := node (.updateFlags e f)

def getFlags : Effect := node .getFlags

def getStore : Effect := node .getStore

def withStore (e : Effect) (store : Nat) : Effect := node (.withStore e store)

def getOptions : Effect := node .getOptions

def getScope : Effect := node .getScope

def stored (slot : Nat) : Effect := node (.stored slot)

def apply (builder : Nat) (arg : Val) : Effect := node (.apply builder arg)

def asUnit (e : Effect) : Effect := mapPure e fun _ => .unit

def zip (a b : Effect) : Effect :=
  flatMap a fun x => pure (mapPure b fun y => .list [x, y])

def attempt (e : Effect) : Effect :=
  fold e (fun c => pure (of (.exit (.error c)))) (fun v => pure (of (.exit (.ok v))))

def recoverable (c : Cause Json) : Bool := c.defects.isEmpty && !c.isInterrupted

def catchError (e : Effect) (f : Json → Cmd Effect) : Effect :=
  flatMapCause e fun c =>
    match c.failures.head? with
    | some error => if recoverable c then f error else pure (failCause c)
    | none => pure (failCause c)

def mapError (e : Effect) (f : Json → Cmd Json) : Effect := mapCause e fun c => c.mapM f

def traced (e : Effect) (label : String) : Effect := mapCause e fun c => pure (c.traced label)

def tapFailure (e : Effect) (act : Cmd Unit) : Effect := mapCause e fun c => do act; pure c

def withTrace (e : Effect) (label : String) (shared : Bool) : Effect :=
  if shared then .mk (.suspend (pure e)) (some label) else .mk e.instr (some label)

def fiberId : Effect := map getScope fun s => Val.fiberId <$> Cmd.read fun d => d.scopeId s.toNat

end Effect

end FiberEffects
