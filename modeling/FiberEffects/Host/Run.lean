import FiberEffects.Host.Runtime
import FiberEffects.Fiber.Machine
import FiberEffects.Error

namespace FiberEffects

namespace Host

def fuel : Nat := 1000000000

def run {α : Type} (c : Cmd α) : Machine α := Machine.runCmd fuel c

def drive : Machine Nat := run Cmd.processTimers

def advance : Machine (Option Nat) := do
  let fired ← drive
  if fired > 0 then return some fired
  match (← Machine.data).timers.nextDeadline with
  | none => return none
  | some deadline =>
    Machine.modifyData fun d => { d with now := d.now.later deadline }
    some <$> drive

def noTimersStall (id : FiberId) : HostError :=
  HostError.stalled s!"fiber {id.display} is suspended with no pending timers"

def timeStall (id : FiberId) (before : Time) : HostError :=
  HostError.stalled s!"fiber {id.display} is suspended and time cannot advance past {before.display}"

/-- Advances until a fiber is done; its exit, or the stall that stopped the wait. -/
def await (f : Nat) : Nat → Machine (Except HostError Exit)
  | 0 => throw .outOfFuel
  | n + 1 => do
    let b ← Machine.book f
    match b.exit with
    | some exit => return .ok exit
    | none =>
      let before := (← Machine.data).now
      match ← advance with
      | none => return .error (noTimersStall b.id)
      | some fired =>
        if fired == 0 && (← Machine.data).now == before then return .error (timeStall b.id before)
        else await f n

def blockOn (rt : Runtime) (e : Effect) : Machine (Except HostError Exit) := do
  let f ← run (rt.runWith e {} none)
  await f fuel

end Host

end FiberEffects
