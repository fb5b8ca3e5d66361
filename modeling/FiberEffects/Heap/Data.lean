import FiberEffects.Effect.Value
import FiberEffects.Time.Timeline
import FiberEffects.Time.TimerQueue
import FiberEffects.Stack

namespace FiberEffects

/-- What disposing a disposable releases. -/
inductive Release where
  | callback (fn : Nat)
  | unwatch (watcher : Nat)
  | detach (group key : Nat)
  | unobserve (fiber key : Nat)
  | cancelTimer (handle : TimerHandle)
  | removeTask (core : Nat) (key : TimelineKey)
  | disposeGroup (group : Nat)
  | dropFinalizer (resource key : Nat)
  deriving Inhabited

/-- A disposable: whether it was disposed, and what its first disposal releases. -/
structure DisposableCell where
  disposed : Bool := false
  action : Option Release := none
  deriving Inhabited

/-- A group of disposables disposed together: members by key, and whether it was disposed. -/
structure GroupCell where
  members : List (Nat × Nat) := []
  nextKey : Nat := 0
  disposed : Bool := false
  deriving Inhabited

/-- The children of a fiber: the scope's owner and the registered children by key. -/
structure ScopeCell where
  id : FiberId
  children : List (Nat × Nat) := []
  nextKey : Nat := 0
  deriving Inhabited

/-- The values of fiber references, the references whose policies apply to them, and the
futures of first accesses in flight. -/
structure StoreCell where
  values : List (RefId × Val) := []
  policies : List FiberRef := []
  initializing : List (RefId × Nat) := []
  deriving Inhabited

/-- A resource scope: finalizers by key (each a kept builder), the closing exit, and whether
closing has finished. -/
structure ResourceCell where
  finalizers : List (Nat × Nat) := []
  nextKey : Nat := 0
  exit : Option Exit := none
  closed : Bool := false
  deriving Inhabited

/-- What a host timer does when it fires: runs a kept callback with the reading of a clock, or
runs the ready tasks of a scheduler. -/
inductive TimerTask where
  | callback (fn : Nat) (clock : SourceClock)
  | scheduler (core : Nat)
  deriving Inhabited

/-- The shared state of a scheduler: its timer, the tasks waiting (by callback), the armed host
timer (its arrival and the disposable that cancels it), and whether it was disposed. -/
structure CoreCell where
  timer : SourceClock
  timeline : Timeline Nat := {}
  armed : Option (Time × Nat) := none
  disposed : Bool := false
  deriving Inhabited

/-- Who is told when a future resolves: a kept callback, or a suspended fiber to resume. -/
inductive Watcher where
  | callback (fn : Nat)
  | resume (fiber : Nat)
  deriving Inhabited

/-- A future's bookkeeping: whether it resolved, and its watchers in registration order. -/
structure FutureBook where
  resolved : Bool := false
  watchers : List Nat := []
  deriving Inhabited

/-- What a fiber waits on while suspended: its future subscription and the link of that
subscription into the fiber's group. -/
structure Suspension where
  subscription : Nat
  link : Nat
  deriving Inhabited

/-- Everything about a fiber except the code it runs. -/
structure FiberBook where
  id : FiberId
  scope : Nat
  baseStore : Nat
  context : ScopedStack Context
  stores : ScopedStack Nat
  flags : ScopedStack Flags
  group : Nat
  interruptCause : Cause Json := .empty
  interrupting : Bool := false
  suspension : Option Suspension := none
  pendingExit : Option Exit := none
  finalizing : Bool := false
  running : Bool := false
  started : Bool := false
  exit : Option Exit := none
  observers : List (Nat × Nat) := []
  nextObserver : Nat := 0
  deriving Inhabited

/-- The lifecycle of a fiber. -/
inductive FiberStatus where
  | pending
  | running
  | suspended
  | done
  deriving DecidableEq, Inhabited

namespace FiberStatus

def name : FiberStatus → String
  | .pending => "Pending"
  | .running => "Running"
  | .suspended => "Suspended"
  | .done => "Done"

end FiberStatus

namespace FiberBook

def status (b : FiberBook) : FiberStatus :=
  if b.exit.isSome then .done
  else if !b.started then .pending
  else if b.suspension.isSome && !b.running then .suspended
  else .running

def interruptsNow (b : FiberBook) : Bool :=
  b.flags.current.interruptible && !b.interrupting && !b.finalizing && !b.interruptCause.isEmpty

def takeInterrupt (b : FiberBook) : Option (Cause Json) × FiberBook :=
  if b.interruptsNow then (some b.interruptCause, { b with interrupting := true }) else (none, b)

def recoverInterrupt (b : FiberBook) : FiberBook :=
  if b.interrupting && !b.finalizing then { b with interrupting := false, interruptCause := .empty }
  else b

end FiberBook

/-- The plain part of the heap; `watched` pairs each watcher with the future it watches. -/
structure Data where
  now : Time := Time.zero
  log : Array Json := #[]
  disposables : Array DisposableCell := #[]
  groups : Array GroupCell := #[]
  scopes : Array ScopeCell := #[]
  stores : Array StoreCell := #[]
  resources : Array ResourceCell := #[]
  idGens : Array Nat := #[]
  cores : Array CoreCell := #[]
  timers : TimerQueue TimerTask := {}
  fibers : Array FiberBook := #[]
  futures : Array FutureBook := #[]
  watchers : Array (Option Watcher) := #[]
  watched : List (Nat × Nat) := []
  nextRefNum : Nat := RefId.firstDynamic
  names : List ((String × String) × Val) := []
  deriving Inhabited

namespace Data

def modifyAt {α : Type} (xs : Array α) (i : Nat) (f : α → α) : Array α := xs.modify i f

def record (d : Data) (entry : Json) : Data := { d with log := d.log.push entry }

def newDisposable (d : Data) (action : Option Release) : Nat × Data :=
  (d.disposables.size, { d with disposables := d.disposables.push { action } })

def takeDisposal (d : Data) (k : Nat) : Option Release × Data :=
  match d.disposables[k]? with
  | some cell => (cell.action, { d with disposables := d.disposables.set! k ({ disposed := true } : DisposableCell) })
  | none => (none, d)

def isDisposed (d : Data) (k : Nat) : Bool := (d.disposables[k]?.map (·.disposed)).getD false

def newGroup (d : Data) : Nat × Data := (d.groups.size, { d with groups := d.groups.push {} })

def groupAdd (d : Data) (g member : Nat) : Option Nat × Data :=
  match d.groups[g]? with
  | some cell =>
    if cell.disposed then (none, d)
    else
      let cell' := { cell with members := cell.members ++ [(cell.nextKey, member)], nextKey := cell.nextKey + 1 }
      (some cell.nextKey, { d with groups := d.groups.set! g cell' })
  | none => (none, d)

def groupDetach (d : Data) (g key : Nat) : Data :=
  { d with groups := modifyAt d.groups g fun cell =>
      { cell with members := cell.members.filter (·.1 != key) } }

def groupTake (d : Data) (g : Nat) : List Nat × Data :=
  match d.groups[g]? with
  | some cell =>
    if cell.disposed then ([], d)
    else (cell.members.map (·.2), { d with groups := d.groups.set! g { cell with members := [], disposed := true } })
  | none => ([], d)

def newScope (d : Data) (id : FiberId) : Nat × Data :=
  (d.scopes.size, { d with scopes := d.scopes.push { id } })

def scopeAdd (d : Data) (s fiber : Nat) : Nat × Data :=
  match d.scopes[s]? with
  | some cell =>
    let cell' := { cell with children := cell.children ++ [(cell.nextKey, fiber)], nextKey := cell.nextKey + 1 }
    (cell.nextKey, { d with scopes := d.scopes.set! s cell' })
  | none => (0, d)

def scopeRemove (d : Data) (s key : Nat) : Data :=
  { d with scopes := modifyAt d.scopes s fun cell =>
      { cell with children := cell.children.filter (·.1 != key) } }

def children (d : Data) (s : Nat) : List Nat :=
  (d.scopes[s]?.map fun cell => cell.children.map (·.2)).getD []

def scopeId (d : Data) (s : Nat) : FiberId := (d.scopes[s]?.map (·.id)).getD .none

def newIdGen (d : Data) (first : Nat) : Nat × Data :=
  (d.idGens.size, { d with idGens := d.idGens.push first })

def wrappingSucc (n : Nat) : Nat := (n + 1) % (maxNanos + 1)

def nextId (d : Data) (g : Nat) : Nat × Data :=
  let n := d.idGens[g]?.getD 0
  (n, { d with idGens := modifyAt d.idGens g wrappingSucc })

def freshRef (d : Data) (name : String) : RefId × Data :=
  (⟨d.nextRefNum, name⟩, { d with nextRefNum := d.nextRefNum + 1 })

def newStore (d : Data) (cell : StoreCell := {}) : Nat × Data :=
  (d.stores.size, { d with stores := d.stores.push cell })

def store (d : Data) (s : Nat) : StoreCell := d.stores[s]?.getD {}

def setStore (d : Data) (s : Nat) (cell : StoreCell) : Data :=
  { d with stores := modifyAt d.stores s fun _ => cell }

def newResource (d : Data) : Nat × Data :=
  (d.resources.size, { d with resources := d.resources.push {} })

def resource (d : Data) (r : Nat) : ResourceCell := d.resources[r]?.getD {}

def setResource (d : Data) (r : Nat) (cell : ResourceCell) : Data :=
  { d with resources := modifyAt d.resources r fun _ => cell }

def newCore (d : Data) (timer : SourceClock) : Nat × Data :=
  (d.cores.size, { d with cores := d.cores.push { timer } })

def core (d : Data) (c : Nat) : CoreCell := d.cores[c]?.getD default

def setCore (d : Data) (c : Nat) (cell : CoreCell) : Data :=
  { d with cores := modifyAt d.cores c fun _ => cell }

def fiber (d : Data) (f : Nat) : FiberBook := d.fibers[f]?.getD default

def modifyFiber (d : Data) (f : Nat) (g : FiberBook → FiberBook) : Data :=
  { d with fibers := modifyAt d.fibers f g }

def future (d : Data) (k : Nat) : FutureBook := d.futures[k]?.getD {}

def addWatcher (d : Data) (k : Nat) (w : Watcher) : Nat × Data :=
  let n := d.watchers.size
  (n, { d with watchers := d.watchers.push (some w), watched := (n, k) :: d.watched,
               futures := modifyAt d.futures k fun b =>
                 if b.resolved then b else { b with watchers := b.watchers ++ [n] } })

def takeWatcher (d : Data) (n : Nat) : Option Watcher × Data :=
  match d.watchers[n]? with
  | some w => (w, { d with watchers := d.watchers.set! n none })
  | none => (none, d)

def dropWatcher (d : Data) (k n : Nat) : Data :=
  { d with futures := modifyAt d.futures k fun b =>
      if b.resolved then b else { b with watchers := b.watchers.filter (· != n) } }

def unwatch (d : Data) (n : Nat) : Data :=
  match d.watched.lookup n with
  | some k => (d.takeWatcher n).2.dropWatcher k n
  | none => (d.takeWatcher n).2

def resolveFuture (d : Data) (k : Nat) : Option (List Nat) × Data :=
  let b := d.future k
  if b.resolved then (none, d)
  else (some b.watchers, { d with futures := modifyAt d.futures k fun _ => { resolved := true } })

def takeInterrupt (d : Data) (f : Nat) : Option (Cause Json) × Data :=
  let (c, b) := (d.fiber f).takeInterrupt
  (c, d.modifyFiber f fun _ => b)

def addObserver (d : Data) (f cb : Nat) : Nat × Data :=
  let key := (d.fiber f).nextObserver
  let d := d.modifyFiber f fun b =>
    { b with observers := b.observers ++ [(key, cb)], nextObserver := key + 1 }
  d.newDisposable (some (.unobserve f key))

def removeObserver (d : Data) (f key : Nat) : Data :=
  d.modifyFiber f fun b => { b with observers := b.observers.filter (·.1 != key) }

def takeObservers (d : Data) (f : Nat) : List Nat × Data :=
  (((d.fiber f).observers.map (·.2)), d.modifyFiber f fun b => { b with observers := [] })

def setTimer (d : Data) (deadline : Time) (task : TimerTask) : Nat × Data :=
  let (h, q) := d.timers.register deadline task
  { d with timers := q }.newDisposable (some (.cancelTimer h))

def cancelTimer (d : Data) (h : TimerHandle) : Data := { d with timers := (d.timers.cancel h).2 }

def takeDueTimers (d : Data) : List TimerTask × Data :=
  let (due, q) := d.timers.takeDue d.now
  (due, { d with timers := q })

def removeTask (d : Data) (c : Nat) (key : TimelineKey) : Option Nat × Data :=
  let cell := d.core c
  let (removed, t) := cell.timeline.remove key
  let cell := { cell with timeline := t }
  if removed.isSome && t.isEmpty then (cell.armed.map (·.2), d.setCore c { cell with armed := none })
  else (none, d.setCore c cell)

def dropFinalizer (d : Data) (r key : Nat) : Data :=
  let cell := d.resource r
  d.setResource r { cell with finalizers := cell.finalizers.filter (·.1 != key) }

def ambient (d : Data) (s : Nat) : Option Context :=
  match (d.store s).values.find? (·.1.num == RefId.defaultServices.num) with
  | some (_, .context c) => some c
  | _ => none

def service {α : Type} (d : Data) (ctx : Context) (s : Nat) (pick : Context → Option α) :
    Option α :=
  match pick ctx with
  | some x => some x
  | none => (d.ambient s).bind pick

def unixTimeIn (d : Data) (ctx : Context) (s : Nat) : Time :=
  match d.service ctx s (·.clock) with
  | some c => c.unixTime d.now
  | none => Time.zero

def fiberUnixTime (d : Data) (f : Nat) : Time :=
  let b := d.fiber f
  d.unixTimeIn b.context.current b.stores.current

def guard (old new : Data) : Data :=
  { new with
    fibers := old.fibers
    futures := old.futures
    watchers := old.watchers
    watched := old.watched
    disposables :=
      old.disposables ++ new.disposables.extract old.disposables.size new.disposables.size }

def bindName (d : Data) (table name : String) (v : Val) : Data :=
  { d with names := ((table, name), v) :: d.names.filter (·.1 != (table, name)) }

def lookupName (d : Data) (table name : String) : Option Val :=
  (d.names.find? (·.1 == (table, name))).map (·.2)

end Data

end FiberEffects
