import FiberEffects.Heap.Data

namespace FiberEffects

def disposableDebug (disposed : Bool) : String := s!"Disposable \x7b disposed: {disposed} \x7d"

def GroupCell.debug (g : GroupCell) : String :=
  s!"SettableDisposable \x7b members: {g.members.length}, disposed: {g.disposed} \x7d"

def FutureBook.debug (f : FutureBook) : String := s!"Future \x7b resolved: {f.resolved} \x7d"

def ResourceCell.debug (r : ResourceCell) : String :=
  let closing := r.exit.isSome
  s!"Scope \x7b finalizers: {r.finalizers.length}, closing: {closing}, closed: {r.closed} \x7d"

def idGeneratorDebug (next : Nat) : String :=
  s!"IdGenerator \x7b next: Cell \x7b value: {next} \x7d \x7d"

namespace Data

def scopeDebug (d : Data) (s : Nat) : String :=
  let id := (d.scopeId s).debug
  let n := (d.children s).length
  s!"FiberScope \x7b id: {id}, children: {n} \x7d"

def schedulerDebug (d : Data) (c : Nat) : String :=
  let cell := d.core c
  let pending := cell.timeline.size
  let armed := cell.armed.isSome
  s!"Scheduler \x7b pending: {pending}, armed: {armed}, disposed: {cell.disposed} \x7d"

def driverDebug (d : Data) : String :=
  let now := d.now.debug
  let pending := d.timers.size
  s!"TimerDriver \x7b now: {now}, pending: {pending} \x7d"

end Data

end FiberEffects
