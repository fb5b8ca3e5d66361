import FiberEffects.Fiber.Scope

namespace FiberEffects

/-- Which scoped value a restore frame pops. -/
inductive Restore where
  | context
  | store
  | flags
  deriving DecidableEq

/-- A pending continuation on a fiber's stack. -/
inductive Frame where
  | map (f : Val → Cmd Val)
  | flatMap (f : Val → Cmd Effect)
  | mapCause (f : Cause Json → Cmd (Cause Json))
  | flatMapCause (f : Cause Json → Cmd Effect)
  | fold (onCause : Cause Json → Cmd Effect) (onValue : Val → Cmd Effect)
  | interrupt
  | restore (what : Restore)

/-- The code a fiber runs: its next instruction and its stack of frames (top first). -/
structure FiberCode where
  instr : Option Effect := none
  frames : List Frame := []

/-- The whole heap: the plain data, the code of each fiber, the effect each future resolved
with, and the kept callbacks, builders and effects. -/
structure Heap where
  data : Data := {}
  code : Array FiberCode := #[]
  futures : Array (Option Effect) := #[]
  fns : Array (Val → Cmd Val) := #[]
  builders : Array (Val → Cmd Effect) := #[]
  effects : Array Effect := #[]

instance : Inhabited Heap := ⟨{}⟩

/-- Why running stopped early: a panic the program did not catch, or no fuel left. -/
inductive Fault where
  | panic (message : String)
  | outOfFuel
  deriving Inhabited

abbrev Machine := ExceptT Fault (StateM Heap)

/-- How one instruction ends: with the next instruction, by suspending, or with an exit. -/
inductive Outcome where
  | next (e : Effect)
  | suspend
  | done (exit : Exit)

def mergeExits (first teardown : Exit) : Exit :=
  match first, teardown with
  | .error l, .error r => .error (l.combine r)
  | .ok _, .error r => .error r
  | first, .ok _ => first

namespace Machine

def data : Machine Data := do return (← get).data

def modifyData (f : Data → Data) : Machine Unit := modify fun h => { h with data := f h.data }

def modifyGetData {α : Type} (f : Data → α × Data) : Machine α :=
  modifyGet fun h => let (a, d) := f h.data; (a, { h with data := d })

def book (f : Nat) : Machine FiberBook := do return (← data).fiber f

def modifyBook (f : Nat) (g : FiberBook → FiberBook) : Machine Unit :=
  modifyData (·.modifyFiber f g)

def modifyCode (f : Nat) (g : FiberCode → FiberCode) : Machine Unit :=
  modify fun h => { h with code := h.code.modify f g }

def takeInstr (f : Nat) : Machine (Option Effect) :=
  modifyGet fun h =>
    match h.code[f]? with
    | some c => (c.instr, { h with code := h.code.set! f { c with instr := none } })
    | none => (none, h)

def setInstr (f : Nat) (e : Effect) : Machine Unit := modifyCode f fun c => { c with instr := some e }

def popFrame (f : Nat) : Machine (Option Frame) :=
  modifyGet fun h =>
    match h.code[f]? with
    | some c =>
      match c.frames with
      | fr :: rest => (some fr, { h with code := h.code.set! f { c with frames := rest } })
      | [] => (none, h)
    | none => (none, h)

def pushFrame (f : Nat) (fr : Frame) : Machine Unit :=
  modifyCode f fun c => { c with frames := fr :: c.frames }

def unixTime (f : Nat) : Machine Time := do return (← data).fiberUnixTime f

def defectCause (f : Nat) (message : String) : Machine (Cause Json) := do
  return .unexpected (← unixTime f) message

def currentFlags (f : Nat) : Machine Flags := do return (← book f).flags.current

def pushFlags (f : Nat) (flags : Flags) : Machine Unit := do
  if (← currentFlags f).interruptible && !flags.interruptible then pushFrame f .interrupt
  modifyBook f fun b => { b with flags := b.flags.push flags }
  pushFrame f (.restore .flags)

def restore (f : Nat) : Restore → Machine Unit
  | .context => modifyBook f fun b => { b with context := b.context.pop.2 }
  | .store => modifyBook f fun b => { b with stores := b.stores.pop.2 }
  | .flags => modifyBook f fun b => { b with flags := b.flags.pop.2 }

def takeInterrupt (f : Nat) : Machine (Option (Cause Json)) := modifyGetData (·.takeInterrupt f)

def newFiber (e : Effect) (id : FiberId) (opts : Options) : Machine Nat :=
  modifyGet fun h =>
    let (g, d) := h.data.newGroup
    let b : FiberBook :=
      { id, scope := opts.scope, baseStore := opts.store, context := .new opts.context,
        stores := .new opts.store, flags := .new opts.flags, group := g }
    let c : FiberCode := { instr := some e }
    (d.fibers.size, { h with data := { d with fibers := d.fibers.push b }, code := h.code.push c })

def newFuture (resolved : Option Effect) : Machine Nat :=
  modifyGet fun h =>
    let b : FutureBook := { resolved := resolved.isSome }
    let d := { h.data with futures := h.data.futures.push b }
    (h.futures.size, { h with futures := h.futures.push resolved, data := d })

mutual

def runCmd {α : Type} : Nat → Cmd α → Machine α
  | 0, _ => throw .outOfFuel
  | _ + 1, Prog.done a => pure a
  | _ + 1, Prog.panic m => throw (.panic m)
  | n + 1, Prog.call r k => do
    let v ← perform n r
    runCmd n (k v)

/-- Answers one request. -/
def perform : Nat → Request → Machine Val
  | 0, _ => throw .outOfFuel
  | _ + 1, .data f => modifyGetData fun d => let (d', v) := f d; (v, d.guard d')
  | _ + 1, .keepFn g => modifyGet fun h => (.nat h.fns.size, { h with fns := h.fns.push g })
  | _ + 1, .keepBuilder g =>
    modifyGet fun h => (.nat h.builders.size, { h with builders := h.builders.push (g h.builders.size) })
  | n + 1, .call k arg => do
    match (← get).fns[k]? with
    | some g => runCmd n (g arg)
    | none => pure .unit
  | _ + 1, .keepEffect e =>
    modifyGet fun h => (.effect h.effects.size, { h with effects := h.effects.push e })
  | n + 1, .build k arg => do
    let e ← match (← get).builders[k]? with
      | some g => runCmd n (g arg)
      | none => pure (Effect.of .unit)
    modifyGet fun h => (.nat h.effects.size, { h with effects := h.effects.push e })
  | n + 1, .dispose k => do
    dispose n k
    pure .unit
  | _ + 1, .newFuture e => Val.future <$> newFuture e
  | n + 1, .complete k e => Val.bool <$> completeFuture n k e
  | _ + 1, .newFiber e id opts => Val.fiber <$> newFiber e id opts
  | n + 1, .start k => Val.bool <$> start n k
  | n + 1, .interrupt k requester => do
    interruptAs n k requester
    pure .unit
  | _ + 1, .observe k cb => Val.nat <$> modifyGetData (·.addObserver k cb)
  | n + 1, .watch k cb => do
    match (← get).futures[k]? with
    | some (some e) => perform n (.keepEffect e)
    | _ => Val.nat <$> modifyGetData (·.addWatcher k (.callback cb))

def dispose : Nat → Nat → Machine Unit
  | 0, _ => throw .outOfFuel
  | n + 1, k => do
    match ← modifyGetData (·.takeDisposal k) with
    | none => pure ()
    | some r => release n r

/-- Releases what a disposable held. -/
def release : Nat → Release → Machine Unit
  | 0, _ => throw .outOfFuel
  | n + 1, .callback fn => discard <| perform n (.call fn .unit)
  | _ + 1, .unwatch w => modifyData (·.unwatch w)
  | _ + 1, .detach g key => modifyData (·.groupDetach g key)
  | _ + 1, .unobserve f key => modifyData (·.removeObserver f key)
  | _ + 1, .cancelTimer h => modifyData (·.cancelTimer h)
  | n + 1, .removeTask c key => do
    match ← modifyGetData (·.removeTask c key) with
    | some armed => dispose n armed
    | none => pure ()
  | n + 1, .disposeGroup g => do
    let members ← modifyGetData (·.groupTake g)
    disposeAll n members
  | _ + 1, .dropFinalizer r key => modifyData (·.dropFinalizer r key)

def disposeAll : Nat → List Nat → Machine Unit
  | 0, _ => throw .outOfFuel
  | _ + 1, [] => pure ()
  | n + 1, k :: ks => do
    dispose n k
    disposeAll n ks

def groupAdd : Nat → Nat → Nat → Machine Nat
  | 0, _, _ => throw .outOfFuel
  | n + 1, g, m => do
    match ← modifyGetData (·.groupAdd g m) with
    | some key => modifyGetData (·.newDisposable (some (.detach g key)))
    | none => do
      dispose n m
      modifyGetData (·.newDisposable none)

def callAll : Nat → List Nat → Val → Machine Unit
  | 0, _, _ => throw .outOfFuel
  | _ + 1, [], _ => pure ()
  | n + 1, k :: ks, arg => do
    discard <| perform n (.call k arg)
    callAll n ks arg

/-- Resolves a future with an effect and tells its watchers; false if it had resolved. -/
def completeFuture : Nat → Nat → Effect → Machine Bool
  | 0, _, _ => throw .outOfFuel
  | n + 1, k, e => do
    match ← modifyGetData (·.resolveFuture k) with
    | none => pure false
    | some ws =>
      modify fun h => { h with futures := h.futures.modify k fun _ => some e }
      notify n ws e
      pure true

/-- Tells the watchers of a resolved future, skipping those stopped meanwhile: a callback is called
with the effect, kept, and a suspended fiber resumes with it. -/
def notify : Nat → List Nat → Effect → Machine Unit
  | 0, _, _ => throw .outOfFuel
  | _ + 1, [], _ => pure ()
  | n + 1, w :: ws, e => do
    match ← modifyGetData (·.takeWatcher w) with
    | some (.callback k) => do
      let v ← perform n (.keepEffect e)
      discard <| perform n (.call k v)
    | some (.resume f) => resume n f e
    | none => pure ()
    notify n ws e

/-- Resumes a suspended fiber with the effect its future resolved with. -/
def resume : Nat → Nat → Effect → Machine Unit
  | 0, _, _ => throw .outOfFuel
  | n + 1, f, e => do
    match (← book f).suspension with
    | none => pure ()
    | some s =>
      modifyBook f fun b => { b with suspension := none }
      dispose n s.subscription
      dispose n s.link
      setInstr f e
      runLoop n f

/-- Asks a fiber to stop on behalf of `requester`. -/
def interruptAs : Nat → Nat → FiberId → Machine Unit
  | 0, _, _ => throw .outOfFuel
  | n + 1, f, requester => do
    if (← book f).exit.isSome then return
    let time ← unixTime f
    modifyBook f fun b =>
      { b with interruptCause := b.interruptCause.combine (.interrupted time requester) }
    let b ← book f
    if b.started && !b.running && b.interruptsNow then
      match b.suspension with
      | none => pure ()
      | some s =>
        modifyBook f fun b => { b with suspension := none }
        dispose n s.subscription
        dispose n s.link
        modifyBook f fun b => { b with interrupting := true }
        setInstr f (Effect.failCause (← book f).interruptCause)
        runLoop n f

def start : Nat → Nat → Machine Bool
  | 0, _ => throw .outOfFuel
  | n + 1, f => do
    if (← book f).started then return false
    modifyBook f fun b => { b with started := true }
    runLoop n f
    pure true

def runLoop : Nat → Nat → Machine Unit
  | 0, _ => throw .outOfFuel
  | n + 1, f => do
    let b ← book f
    if b.running || b.exit.isSome then return
    modifyBook f fun b => { b with running := true }
    turns n f
    modifyBook f fun b => { b with running := false }

/-- The turns of a fiber's loop, while it has an instruction. -/
def turns : Nat → Nat → Machine Unit
  | 0, _ => throw .outOfFuel
  | n + 1, f => do
    match ← takeInstr f with
    | none => pure ()
    | some instr =>
      let instr := match ← takeInterrupt f with
        | some c => Effect.failCause c
        | none => instr
      let outcome ← tryCatch (step n f instr) fun
        | .panic m => do return .next (Effect.failCause (← defectCause f m))
        | .outOfFuel => throw .outOfFuel
      match outcome with
      | .next e => setInstr f e
      | .suspend => pure ()
      | .done exit => done n f exit
      turns n f

/-- Runs one instruction. -/
def step : Nat → Nat → Effect → Machine Outcome
  | 0, _, _ => throw .outOfFuel
  | n + 1, f, e =>
    match e.instr with
    | .of v => continueWith n f v
    | .fail c => continueWithCause n f c
    | .sync run => do
      match ← runCmd n run with
      | .value v => continueWith n f v
      | .expected err => do continueWithCause n f (.expected (← unixTime f) err)
      | .defect m => do continueWithCause n f (← defectCause f m)
    | .suspend build => Outcome.next <$> runCmd n build
    | .stored k => do return .next (((← get).effects[k]?).getD (Effect.of .unit))
    | .apply k arg => do
      match (← get).builders[k]? with
      | some g => Outcome.next <$> runCmd n (g arg)
      | none => pure (.next (Effect.of .unit))
    | .map inner g => do
      pushFrame f (.map g)
      pure (.next inner)
    | .flatMap inner g => do
      pushFrame f (.flatMap g)
      pure (.next inner)
    | .mapCause inner g => do
      pushFrame f (.mapCause g)
      pure (.next inner)
    | .flatMapCause inner g => do
      pushFrame f (.flatMapCause g)
      pure (.next inner)
    | .fold inner onCause onValue => do
      pushFrame f (.fold onCause onValue)
      pure (.next inner)
    | .access g => do
      let ctx := (← book f).context.current
      Outcome.next <$> runCmd n (g ctx)
    | .provide inner ctx => do
      modifyBook f fun b => { b with context := b.context.push (b.context.current.merge ctx) }
      pushFrame f (.restore .context)
      pure (.next inner)
    | .await k => suspendOn n f k
    | .setInterruptible inner on => do
      pushFlags f { (← currentFlags f) with interruptible := on }
      pure (.next inner)
    | .updateFlags inner g => do
      pushFlags f (g (← currentFlags f))
      pure (.next inner)
    | .getFlags => do continueWith n f (.flags (← currentFlags f))
    | .getStore => do continueWith n f (.store (← book f).stores.current)
    | .withStore inner s => do
      modifyBook f fun b => { b with stores := b.stores.push s }
      pushFrame f (.restore .store)
      pure (.next inner)
    | .getOptions => do
      let b ← book f
      let opts : Options :=
        { context := b.context.current, scope := b.scope, store := b.stores.current,
          flags := b.flags.current }
      continueWith n f (.options opts)
    | .getScope => do continueWith n f (.scope (← book f).scope)

/-- Suspends on a future, or continues with its effect if it has resolved. -/
def suspendOn : Nat → Nat → Nat → Machine Outcome
  | 0, _, _ => throw .outOfFuel
  | n + 1, f, k => do
    match (← get).futures[k]? with
    | some (some e) => pure (.next e)
    | _ =>
      let w ← modifyGetData (·.addWatcher k (.resume f))
      let sub ← modifyGetData (·.newDisposable (some (.unwatch w)))
      let link ← groupAdd n (← book f).group sub
      modifyBook f fun b => { b with suspension := some ⟨sub, link⟩ }
      pure .suspend

/-- Resolves a value against the frames. -/
def continueWith : Nat → Nat → Val → Machine Outcome
  | 0, _, _ => throw .outOfFuel
  | n + 1, f, v => do
    match ← popFrame f with
    | none => pure (.done (.ok v))
    | some (.map g) => do
      let v ← runCmd n (g v)
      continueWith n f v
    | some (.flatMap g) | some (.fold _ g) => Outcome.next <$> runCmd n (g v)
    | some .interrupt => do
      match ← takeInterrupt f with
      | some c => continueWithCause n f c
      | none => continueWith n f v
    | some (.restore r) => do
      restore f r
      continueWith n f v
    | some (.mapCause _) | some (.flatMapCause _) => continueWith n f v

/-- Resolves a failure cause against the frames. -/
def continueWithCause : Nat → Nat → Cause Json → Machine Outcome
  | 0, _, _ => throw .outOfFuel
  | n + 1, f, c => do
    match ← popFrame f with
    | none => pure (.done (.error c))
    | some (.mapCause g) => do
      let c ← runCmd n (g c)
      continueWithCause n f c
    | some (.flatMapCause g) | some (.fold g _) => do
      modifyBook f (·.recoverInterrupt)
      Outcome.next <$> runCmd n (g c)
    | some .interrupt => do
      match ← takeInterrupt f with
      | some i => continueWithCause n f (c.combine i)
      | none => continueWithCause n f c
    | some (.restore r) => do
      restore f r
      continueWithCause n f c
    | some (.map _) | some (.flatMap _) => continueWithCause n f c

/-- The frames ran out: tear down the children first, or complete. -/
def done : Nat → Nat → Exit → Machine Unit
  | 0, _, _ => throw .outOfFuel
  | n + 1, f, exit => do
    let b ← book f
    match b.pendingExit with
    | some first =>
      modifyBook f fun b => { b with pendingExit := none }
      complete n f (mergeExits first exit)
    | none =>
      if ((← data).children b.scope).isEmpty then complete n f exit
      else
        modifyBook f fun b => { b with pendingExit := some exit, finalizing := true }
        setInstr f (Effect.interruptChildren b.scope).uninterruptible

/-- Publishes a fiber's exit: stores it, disposes the fiber's subscriptions, tells each observer once. -/
def complete : Nat → Nat → Exit → Machine Unit
  | 0, _, _ => throw .outOfFuel
  | n + 1, f, exit => do
    if (← book f).exit.isSome then return
    modifyCode f fun _ => {}
    modifyBook f fun b => { b with suspension := none, exit := some exit }
    let members ← modifyGetData (·.groupTake (← book f).group)
    disposeAll n members
    let observers ← modifyGetData (·.takeObservers f)
    callAll n observers (.exit exit)

end

end Machine

end FiberEffects
