import FiberEffects.Fiber.Store

namespace FiberEffects

instance : Answer Duration := ⟨fun d => .nat d.nanos, fun v => ⟨v.toNat⟩⟩

instance : Answer ScheduleState := ⟨.scheduleState, fun | .scheduleState s => s | _ => default⟩

instance : Answer ScheduleDecision :=
  ⟨fun | .continue pause => Answer.toVal pause | .done => .unit,
   fun | .opt pause => .continue (pause.map Answer.ofVal) | _ => .done⟩

namespace Cmd

def clockTime (c : SourceClock) : Cmd Time := read fun d => c.time d.now

def clockUnixTime (c : SourceClock) : Cmd Time := read fun d => c.unixTime d.now

def setTimer (timer : SourceClock) (delay : Duration) (cb : Time → Cmd Unit) : Cmd Nat := do
  let fn ← keepAction fun v => cb (Answer.ofVal v)
  modify fun d => d.setTimer (d.now.add delay) (.callback fn timer)

def releaseArmed (c : Nat) : Cmd Unit := do
  let armed : Option Nat ← modify fun d =>
    let cell := d.core c
    (cell.armed.map (·.2), d.setCore c { cell with armed := none })
  match armed with
  | some k => dispose k
  | none => pure ()

/-- Arms the scheduler's host timer for its earliest arrival, unless one is armed no later. -/
def scheduleNextRun (c : Nat) : Cmd Unit := do
  let next : Option Time ← read fun d => (d.core c).timeline.nextArrival
  match next with
  | none => releaseArmed c
  | some next =>
    let armedAt : Option Time ← read fun d => (d.core c).armed.map (·.1)
    let earlier := match armedAt with
      | some at_ => decide (next < at_)
      | none => true
    if earlier then
      releaseArmed c
      let timer : SourceClock ← read fun d => (d.core c).timer
      let delay := next.since (← clockUnixTime timer)
      let handle ← modify fun d => d.setTimer (d.now.add delay) (.scheduler c)
      update fun d => d.setCore c { d.core c with armed := some (next, handle) }

/-- Runs every task that has arrived, then re-arms for the next. -/
def runReadyTasks (c : Nat) : Cmd Unit := do
  update fun d => d.setCore c { d.core c with armed := none }
  let timer : SourceClock ← read fun d => (d.core c).timer
  let now ← clockUnixTime timer
  let tasks : List Nat ← modify fun d =>
    let cell := d.core c
    let (ready, t) := cell.timeline.takeReady now
    (ready, d.setCore c { cell with timeline := t })
  for t in tasks do discard <| call t .unit
  scheduleNextRun c

def processTimers : Cmd Nat := do
  let due : List TimerTask ← modify (·.takeDueTimers)
  for task in due do
    match task with
    | .callback fn clock => discard <| call fn (.time (← clockTime clock))
    | .scheduler c => runReadyTasks c
  pure due.length

/-- Adds a task to a scheduler at an arrival; the disposable that removes it, or none once the
scheduler is disposed. -/
def addTask (c : Nat) (arrival : Time) (task : Nat) : Cmd (Option Nat) := do
  if ← read fun d => (d.core c).disposed then return none
  let (key, nearest) : TimelineKey × Bool ← do
    let r : List Val ← modify fun d =>
      let cell := d.core c
      let ((key, nearest), t) := cell.timeline.add arrival task
      ([.time key.arrival, .nat key.seq, .bool nearest], d.setCore c { cell with timeline := t })
    match r with
    | [.time a, .nat s, .bool b] => pure (⟨a, s⟩, b)
    | _ => pure (⟨arrival, 0⟩, false)
  if nearest then scheduleNextRun c
  some <$> newDisposable (some (.removeTask c key))

def scheduleTask (s : SchedulerRef) (delay : Duration) (task : Nat) : Cmd (Option Nat) := do
  let arrival := (← clockUnixTime s.timer).add delay
  addTask s.core arrival task

def disposeScheduler (c : Nat) : Cmd Unit := do
  update fun d => d.setCore c { d.core c with disposed := true }
  releaseArmed c
  update fun d => d.setCore c { d.core c with timeline := {} }

end Cmd

namespace SchedulerRef

def fork (s : SchedulerRef) (now : Time) : SchedulerRef := { s with timer := s.timer.fork now }

end SchedulerRef

namespace Effect

/-- The scheduler service of the running fiber, or a defect without one. -/
def currentScheduler : Effect :=
  flatMap getOptions fun o =>
    match o with
    | .options opts => do
      let s : Option SchedulerRef ← Cmd.read fun d => d.service opts.context opts.store (·.scheduler)
      match s with
      | some s => pure (of (.scheduler s))
      | none => pure (die "no Scheduler service is available")
    | _ => pure (die "no Scheduler service is available")

def delayOn (s : SchedulerRef) (e : Effect) (d : Duration) : Effect :=
  suspend do
    let fut ← Cmd.newFuture none
    let task ← Cmd.keepAction fun _ => discard <| Cmd.complete fut e
    match ← Cmd.scheduleTask s d task with
    | some cancel => pure (tapFailure (await fut) (Cmd.dispose cancel))
    | none => pure (die "scheduler is disposed")

def delayed (e : Effect) (d : Duration) : Effect :=
  flatMap currentScheduler fun s =>
    match s with
    | .scheduler s => pure (delayOn s e d)
    | _ => pure e

def sleep (d : Duration) : Effect := delayed unit d

/-- The loop of a schedule's run, from a state and the decision taken there: while the schedule
continues, run the effect (after the pause it asks for), step the schedule at the clock's reading
and go round again through the loop's kept builder `self`; once it is done, succeed with its
state. -/
def scheduleRound (s : SchedulerRef) (e : Effect) (policy : Schedule) (self : Nat)
    (state : ScheduleState) : ScheduleDecision → Effect
  | .done => of (.scheduleState state)
  | .continue pause =>
    let run := match pause with
      | some d => delayOn s e d
      | none => e
    flatMap run fun _ => do
      let now ← Cmd.clockTime s.timer
      let (next, decision) := policy.step state { time := now, delay := pause }
      pure (apply self (Answer.toVal (next, decision)))

def scheduleBuilder (s : SchedulerRef) (e : Effect) (policy : Schedule) (self : Nat) (v : Val) :
    Cmd Effect :=
  let (state, decision) : ScheduleState × ScheduleDecision := Answer.ofVal v
  pure (scheduleRound s e policy self state decision)

def scheduleOn (s : SchedulerRef) (e : Effect) (policy : Schedule) : Effect :=
  suspend do
    let start ← Cmd.clockTime s.timer
    let (state, decision) := policy.step (ScheduleState.initial start) { time := start, delay := none }
    let self ← Cmd.keepSelfBuilder (scheduleBuilder s e policy)
    pure (scheduleRound s e policy self state decision)

def repeatWith (e : Effect) (policy : Schedule) : Effect :=
  flatMap currentScheduler fun s =>
    match s with
    | .scheduler s => pure (scheduleOn s e policy)
    | _ => pure e

end Effect

end FiberEffects
