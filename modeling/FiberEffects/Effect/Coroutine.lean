import FiberEffects.Effect.Combinators

namespace FiberEffects

/-- The body of a coroutine, returning `α`: code over the heap requests that may wait. -/
inductive Co (α : Type) where
  | done (a : α)
  | panic (message : String)
  | call (request : Request) (next : Val → Co α)
  | awaitBound (e : Effect) (resume : Exit → Co α)
  | awaitForeign
  | awaitBoth (first second : Effect)

namespace Co

variable {α β : Type}

def bind : Co α → (α → Co β) → Co β
  | .done a, f => f a
  | .panic m, _ => .panic m
  | .call r next, f => .call r fun w => (next w).bind f
  | .awaitBound e resume, f => .awaitBound e fun x => (resume x).bind f
  | .awaitForeign, _ => .awaitForeign
  | .awaitBoth e₁ e₂, _ => .awaitBoth e₁ e₂

instance : Monad Co where
  pure := .done
  bind := bind

def lift : Cmd α → Co α
  | Prog.done a => .done a
  | Prog.panic m => .panic m
  | Prog.call r k => .call r fun w => lift (k w)

def await (e : Effect) : Co Exit := .awaitBound e pure

end Co

def strayDefect : String := "coroutine suspended on something other than a bound effect"

def twoBoundDefect : String := "coroutine awaited two bound effects at once"

/-- The slots a coroutine's body and its driver share. -/
structure CoChannel where
  request : Option Effect := none
  response : Option Exit := none
  defect : Option String := none

namespace CoChannel

def post (ch : CoChannel) (e : Effect) : CoChannel :=
  { ch with
    request := some e
    defect := if ch.request.isSome then some twoBoundDefect else ch.defect }

/-- The driver after a poll that left the body waiting: a defect the body raised fails the fiber,
no request is a stray wait, and a request is run, its outcome handed back by `repoll` with the
request taken. -/
def settle (ch : CoChannel) (repoll : CoChannel → Cmd Effect) : Cmd Effect :=
  match ch.defect with
  | some d => Cmd.panic d
  | none =>
    match ch.request with
    | none => Cmd.panic strayDefect
    | some e => pure (Effect.fold e
        (fun c => repoll { ch with request := none, response := some (.error c) })
        (fun v => repoll { ch with request := none, response := some (.ok v) }))

end CoChannel

/-- Drives a body from a poll on: runs it to its next wait and settles the channel. -/
def Co.step : Co Exit → CoChannel → Cmd Effect
  | .done exit, _ => pure (Effect.fromExit exit)
  | .panic m, _ => Cmd.panic m
  | .call r next, ch => Prog.call r fun w => (next w).step ch
  | .awaitBound e resume, ch => (ch.post e).settle fun ch' =>
      match ch'.response with
      | some r => (resume r).step { ch' with response := none }
      | none => Cmd.panic strayDefect
  | .awaitForeign, ch => ch.settle fun _ => Cmd.panic strayDefect
  | .awaitBoth e₁ e₂, ch => ((ch.post e₁).post e₂).settle fun _ => Cmd.panic strayDefect

def Effect.coroutine (body : Co Exit) : Effect := Effect.suspend (body.step {})

end FiberEffects
