import FiberEffects.Time.Basic

namespace FiberEffects

/-- The name of a registration. -/
structure TimerHandle where
  deadline : Time
  id : Nat
  deriving DecidableEq, Inhabited

/-- Registrations waiting for their deadlines, in firing order. -/
structure TimerQueue (α : Type) where
  entries : List (TimerHandle × α) := []
  nextId : Nat := 0
  deriving Inhabited

namespace TimerQueue

variable {α : Type}

def insertEntry (h : TimerHandle) (x : α) : List (TimerHandle × α) → List (TimerHandle × α)
  | [] => [(h, x)]
  | (h', y) :: rest =>
    if h.deadline < h'.deadline then (h, x) :: (h', y) :: rest
    else (h', y) :: insertEntry h x rest

def register (q : TimerQueue α) (deadline : Time) (x : α) : TimerHandle × TimerQueue α :=
  let h : TimerHandle := ⟨deadline, q.nextId⟩
  (h, { entries := insertEntry h x q.entries, nextId := q.nextId + 1 })

def cancel (q : TimerQueue α) (h : TimerHandle) : Bool × TimerQueue α :=
  if q.entries.any (·.1 == h) then (true, { q with entries := q.entries.filter (·.1 != h) })
  else (false, q)

def nextDeadline (q : TimerQueue α) : Option Time := q.entries.head?.map (·.1.deadline)

def size (q : TimerQueue α) : Nat := q.entries.length

def takeDue (q : TimerQueue α) (now : Time) : List α × TimerQueue α :=
  let due := q.entries.takeWhile (·.1.deadline ≤ now)
  let later := q.entries.dropWhile (·.1.deadline ≤ now)
  (due.map (·.2), { q with entries := later })

end TimerQueue

end FiberEffects
