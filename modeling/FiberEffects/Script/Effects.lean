import FiberEffects.Host.Runtime
import FiberEffects.Script.Values
import FiberEffects.Effect.Coroutine

namespace FiberEffects.Script

open Protocol

/-- What a name is bound to: a value, or a function as the kept builder of its body. -/
inductive Binding where
  | value (v : Json)
  | function (builder : Nat)

/-- The names a script sees, the innermost first. -/
structure Bindings where
  entries : List (String × Binding)

namespace Bindings

def empty : Bindings := ⟨[]⟩

def bind (b : Bindings) (x : String) (v : Json) : Bindings := ⟨(x, .value v) :: b.entries⟩

def define (b : Bindings) (name : String) (builder : Nat) : Bindings :=
  ⟨(name, .function builder) :: b.entries⟩

def valuesOf : List (String × Binding) → Env
  | [] => []
  | (x, .value v) :: rest => (x, v) :: valuesOf rest
  | (x, .function _) :: rest => (valuesOf rest).filter (·.1 != x)

def vars (b : Bindings) : Env := valuesOf b.entries

def callee (b : Bindings) (name : String) : Option Nat :=
  match b.entries.find? (·.1 == name) with
  | some (_, .function k) => some k
  | _ => none

end Bindings

def orPanic {α : Type} : Decode α → Cmd α
  | .ok a => pure a
  | .error m => Cmd.panic m

def evalIn (b : Bindings) (x : Json) : Cmd Json := orPanic ((Expr.ofJson x).eval b.vars)

def fieldOr (j : Json) (k : String) : Json := (opt j k).getD .null

def lookup (table what name : String) : Cmd Val := do
  let v : Option Val ← Cmd.read fun d => d.lookupName table name
  match v with
  | some v => pure v
  | none => Cmd.panic s!"bad input: unknown {what} {name}"

def bindName (table name : String) (v : Val) : Cmd Unit := Cmd.update (·.bindName table name v)

def lookupFiber (name : String) : Cmd Nat := Val.toNat <$> lookup "fiber" "fiber" name

def lookupFuture (name : String) : Cmd Nat := Val.toNat <$> lookup "future" "future" name

def lookupStore (name : String) : Cmd Nat := Val.toNat <$> lookup "store" "store" name

def lookupScope (name : String) : Cmd Nat := Val.toNat <$> lookup "scope" "scope" name

def lookupHandle (name : String) : Cmd Nat := Val.toNat <$> lookup "handle" "handle" name

def lookupRef (name : String) : Cmd FiberRef := Answer.ofVal <$> lookup "ref" "ref" name

def sortNames (names : List String) : List String :=
  names.mergeSort fun a b => decide (a < b) || a == b

def storeNames (s : Nat) : Cmd (List String) := do
  let names : List Val ← Cmd.read fun d => (d.store s).values.map fun (r, _) => Val.json (.str r.name)
  pure (sortNames (names.filterMap fun | .json (.str n) => some n | _ => none))

def strings (xs : List String) : Json := .arr (xs.map .str)

def childIds (s : Nat) : Cmd (List FiberId) := Cmd.read fun d => (d.children s).map fun f => (d.fiber f).id

def contextInfo (ctx : Context) : Json :=
  .mkObj [("len", .nat ctx.size), ("is_empty", .bool (ctx.size == 0)), ("debug", .str ctx.debug),
    ("contains_greeting", .bool ctx.greeting.isSome), ("contains_clock", .bool ctx.clock.isSome),
    ("contains_ids", .bool ctx.ids.isSome)]

def scheduleField (j : Json) : Cmd Schedule := do orPanic (scheduleOfJson (← orPanic (req j "schedule")))

def asJson (v : Val) : Json := valJson v

mutual

/-- Builds the effect a script describes. -/
def build : Nat → Runtime → Bindings → Json → Cmd Effect
  | 0, _, _, _ => Cmd.panic "script nesting too deep"
  | n + 1, rt, b, j => do
    let op ← match j.field? "op" with
      | some (.str op) => pure op
      | _ => Cmd.panic "bad input: effect needs an op"
    let field (k : String) : Cmd Json := orPanic (req j k)
    let sub (k : String) : Cmd Effect := do build n rt b (← field k)
    let str (k : String) : Cmd String := orPanic (reqStr j k)
    match op with
    | "of" => return Effect.of (.json (← evalIn b (← field "value")))
    | "unit" => return Effect.mapPure Effect.unit fun _ => .unit
    | "fail" => return Effect.fail (← evalIn b (← field "error"))
    | "die" => return Effect.die (← str "message")
    | "sync" | "infallible" =>
      return Effect.sync do
        if let some l := opt j "log" then Cmd.log (← evalIn b l)
        return .json (← evalIn b (fieldOr j "value"))
    | "log" =>
      let message ← field "message"
      return Effect.sync do
        Cmd.log (← evalIn b message)
        return .json .null
    | "panic" =>
      let m ← str "message"
      return Effect.sync (Cmd.panic m)
    | "try_sync" =>
      return Effect.trySync do
        match opt j "error" with
        | some e => return .expected (← evalIn b e)
        | none => return .value (.json (← evalIn b (fieldOr j "value")))
    | "suspend" =>
      let e ← field "effect"
      return Effect.suspend (build n rt b e)
    | "let" =>
      let v ← evalIn b (← field "value")
      let inner ← field "in"
      let x ← str "bind"
      build n rt (b.bind x v) inner
    | "if" =>
      match ← evalIn b (← field "cond") with
      | .bool true => sub "then"
      | .bool false => sub "else"
      | _ => Cmd.panic "type error: if"
    | "def" =>
      let name ← str "name"
      let param ← str "param"
      let body ← field "body"
      let k ← Cmd.keepSelfBuilder fun self arg =>
        build n rt ((b.define name self).bind param (asJson arg)) body
      build n rt (b.define name k) (← field "in")
    | "call" =>
      let name ← str "name"
      let arg ← field "arg"
      return Effect.suspend do
        match b.callee name with
        | some k => return Effect.apply k (.json (← evalIn b arg))
        | none => Cmd.panic s!"unknown function: {name}"
    | "from_cause" => return Effect.failCause (← orPanic (causeOfJson (← evalIn b (← field "cause"))))
    | "from_exit" => return Effect.fromExit (← orPanic (exitOfJson (← evalIn b (← field "exit"))))
    | "map" =>
      let x ← str "bind"
      let value ← field "value"
      let e ← sub "effect"
      return Effect.map e fun v => Val.json <$> evalIn (b.bind x (asJson v)) value
    | "flat_map" =>
      let x ← str "bind"
      let next ← field "then"
      let e ← sub "effect"
      return Effect.flatMap e fun v => build n rt (b.bind x (asJson v)) next
    | "seq" =>
      match ← orPanic (reqList j "effects") with
      | [] => Cmd.panic "bad input: seq needs an effect"
      | first :: rest => do
        let first ← build n rt b first
        return rest.foldl (fun acc next => Effect.flatMap acc fun _ => build n rt b next) first
    | "zip" => return Effect.mapPure (Effect.zip (← sub "left") (← sub "right")) fun v => .json (valJson v)
    | "as_unit" => return Effect.mapPure (Effect.asUnit (← sub "effect")) fun _ => .unit
    | "map_cause" =>
      let x ← str "bind"
      let value ← field "cause"
      let e ← sub "effect"
      return Effect.mapCause e fun c => do
        orPanic (causeOfJson (← evalIn (b.bind x (causeJson c)) value))
    | "traced" =>
      let e ← sub "effect"
      return Effect.traced e (← str "label")
    | "flat_map_cause" =>
      let x ← str "bind"
      let next ← field "then"
      let e ← sub "effect"
      return Effect.flatMapCause e fun c => build n rt (b.bind x (causeJson c)) next
    | "match" =>
      let cx ← str "cause_bind"
      let onCause ← field "on_cause"
      let vx ← str "value_bind"
      let onValue ← field "on_value"
      let e ← sub "effect"
      return Effect.fold e (fun c => build n rt (b.bind cx (causeJson c)) onCause)
        (fun v => build n rt (b.bind vx (asJson v)) onValue)
    | "map_error" =>
      let x ← str "bind"
      let value ← field "error"
      let e ← sub "effect"
      return Effect.mapError e fun err => evalIn (b.bind x err) value
    | "catch_error" =>
      let x ← str "bind"
      let next ← field "then"
      let e ← sub "effect"
      return Effect.catchError e fun err => build n rt (b.bind x err) next
    | "attempt" => return Effect.mapPure (Effect.attempt (← sub "effect")) id
    | "uninterruptible" => return Effect.uninterruptible (← sub "effect")
    | "interruptible" => return Effect.interruptible (← sub "effect")
    | "set_interrupt_status" =>
      let on ← match ← orPanic (optBool j "interruptible") with
        | some on => pure on
        | none => Cmd.panic "bad input: missing interruptible"
      return Effect.setInterruptible (← sub "effect") on
    | "update_flags" =>
      let is ← orPanic (optBool j "interrupt_status")
      let st ← orPanic (optBool j "should_trace")
      let e ← sub "effect"
      return Effect.updateFlags e fun f =>
        { interruptible := is.getD f.interruptible, trace := st.getD f.trace }
    | "get_flags" => return Effect.mapPure Effect.getFlags id
    | "with_trace" =>
      let e ← sub "effect"
      let shared ← orPanic (optBool j "shared")
      let label ← str "label"
      return Effect.withTrace e label (shared.getD false)
    | "fiber_id" => return Effect.mapPure Effect.fiberId id
    | "children" =>
      return Effect.map Effect.getScope fun s => do
        return .list ((← childIds s.toNat).map Val.fiberId)
    | "options" =>
      return Effect.map Effect.getOptions fun o => do
        match o with
        | .options opts =>
          let owner : FiberId ← Cmd.read fun d => d.scopeId opts.scope
          let count ← Cmd.read fun d => (d.children opts.scope).length
          let names ← storeNames opts.store
          return .json (.mkObj [("scope", fiberIdJson owner), ("children", .nat count),
            ("flags", flagsJson opts.flags), ("refs", strings names)])
        | _ => return .unit
    | "fork" | "fork_daemon" =>
      let name ← str "name"
      let e ← sub "effect"
      return Effect.map (Effect.forkIn e (op == "fork_daemon")) fun v => do
        bindName "fiber" name v
        Val.fiberId <$> Cmd.read fun d => (d.fiber v.toNat).id
    | "join" =>
      let name ← str "fiber"
      return Effect.suspend do return Effect.join (← lookupFiber name)
    | "await_exit" =>
      let name ← str "fiber"
      return Effect.suspend do return Effect.fiberExit (← lookupFiber name)
    | "interrupt" =>
      let name ← str "fiber"
      return Effect.suspend do return Effect.interruptFiber (← lookupFiber name)
    | "interrupt_as" =>
      let name ← str "fiber"
      let requester ← orPanic (asFiberId (fieldOr j "by"))
      return Effect.sync do
        Cmd.interrupt (← lookupFiber name) requester
        return .unit
    | "fiber_status" =>
      let name ← str "fiber"
      return Effect.sync do
        let f ← lookupFiber name
        let status : Val ← Cmd.read fun d => Val.json (.str (d.fiber f).status.name)
        return status
    | "fiber_poll" =>
      let name ← str "fiber"
      return Effect.sync do
        let f ← lookupFiber name
        return .opt ((← Cmd.fiberExit f).map Val.exit)
    | "sleep" =>
      let ns ← orPanic (reqNat j "ns")
      return Effect.mapPure (Effect.sleep ⟨ns⟩) fun _ => .unit
    | "delayed" =>
      let e ← sub "effect"
      let ns ← orPanic (reqNat j "ns")
      return Effect.delayed e ⟨ns⟩
    | "repeat" =>
      let policy ← scheduleField j
      let e ← sub "effect"
      return Effect.mapPure (Effect.repeatWith e policy) id
    | "schedule_with" =>
      let policy ← scheduleField j
      let e ← sub "effect"
      return Effect.mapPure (Effect.flatMap Effect.currentScheduler fun s =>
        match s with
        | .scheduler s => pure (Effect.scheduleOn s e policy)
        | _ => pure e) id
    | "future_new" =>
      let name ← str "name"
      return Effect.sync do
        let k ← Cmd.newFuture none
        bindName "future" name (.future k)
        return .unit
    | "await" =>
      let name ← str "future"
      return Effect.suspend do return Effect.await (← lookupFuture name)
    | "complete" =>
      let name ← str "future"
      let with_ ← field "with"
      return Effect.sync do
        let f ← lookupFuture name
        let e ← build n rt b with_
        return .bool (← Cmd.complete f e)
    | "context_info" => return Effect.access fun ctx => pure (Effect.of (.json (contextInfo ctx)))
    | "ref_new" =>
      return Effect.sync do
        let r ← newRef n rt b j
        bindName "ref" (← str "name") (.ref r)
        return .unit
    | "ref_get" =>
      let name ← str "ref"
      return Effect.suspend do return Effect.refGet (← lookupRef name)
    | "ref_set" =>
      let name ← str "ref"
      let value ← field "value"
      return Effect.suspend do
        let r ← lookupRef name
        return Effect.refSet r (.json (← evalIn b value))
    | "ref_update" =>
      let name ← str "ref"
      let x ← str "bind"
      let value ← field "value"
      return Effect.suspend do
        let r ← lookupRef name
        return Effect.refUpdate r fun v => Val.json <$> evalIn (b.bind x (asJson v)) value
    | "ref_modify" =>
      let name ← str "ref"
      let x ← str "bind"
      let value ← field "value"
      return Effect.suspend do
        let r ← lookupRef name
        return Effect.refModify r fun v => do
          match ← evalIn (b.bind x (asJson v)) value with
          | .arr [result, next] => return (.json result, .json next)
          | _ => Cmd.panic "type error: modify"
    | "ref_delete" =>
      let name ← str "ref"
      return Effect.suspend do return Effect.refDelete (← lookupRef name)
    | "ref_locally" =>
      let name ← str "ref"
      let value ← field "value"
      let inner ← field "effect"
      return Effect.suspend do
        let r ← lookupRef name
        let v ← evalIn b value
        return Effect.refLocally r (.json v) (← build n rt b inner)
    | "refs_snapshot" =>
      let name ← str "name"
      return Effect.map Effect.getStore fun s => do
        bindName "store" name s
        return .unit
    | "refs_names" =>
      return Effect.map Effect.getStore fun s => do return .json (strings (← storeNames s.toNat))
    | "with_fiber_refs" =>
      let given ← orPanic (optStr j "store")
      let inner ← field "effect"
      let bare := (← orPanic (optBool j "bare")).getD false
      return Effect.suspend do
        let s ← match given with
          | some name => lookupStore name
          | none => do
            let s ← Cmd.modify (·.newStore {})
            if !bare then rt.install s
            pure s
        if !bare then
          if ← Cmd.read fun d => (d.ambient s).isNone then Cmd.panic "store has no default services"
        return Effect.withStore (← build n rt b inner) s
    | "refs_inherit" =>
      let name ← str "store"
      return Effect.suspend do return Effect.inherit (← lookupStore name)
    | "provide" =>
      let greeting ← match opt j "greeting" with
        | some x => some <$> evalIn b x
        | none => pure none
      let ids ← match ← orPanic (optNat j "id_start") with
        | some first => some <$> Cmd.modify (·.newIdGen first)
        | none => pure none
      let clock ← orPanic (optBool j "runtime_clock")
      let scheduler ← orPanic (optBool j "scheduler")
      let rootScope ← orPanic (optBool j "root_scope")
      let s := rt.services
      let ctx : Context :=
        { greeting, ids, clock := if clock == some true then some s.clock else none,
          scheduler := if scheduler == some true then some s.scheduler else none,
          rootScope := if rootScope == some true then some s.rootScope else none }
      return Effect.provide (← sub "effect") ctx
    | "access" =>
      let x ← str "bind"
      let next ← field "then"
      return Effect.access fun ctx => build n rt (b.bind x (ctx.greeting.getD .null)) next
    | "scoped" =>
      let name ← str "name"
      let body ← field "body"
      return Effect.withScope fun r => do
        bindName "scope" name (.resource r)
        build n rt b body
    | "add_finalizer" =>
      let name ← str "scope"
      let x ← str "bind"
      let next ← field "then"
      return Effect.suspend do
        let r ← lookupScope name
        let fin ← Cmd.keepBuilder fun exit => do
          return Effect.asUnit (← build n rt (b.bind x (asJson exit)) next)
        return Effect.map (Effect.addFinalizer r fin) fun d => do
          if let some h ← orPanic (optStr j "handle") then bindName "handle" h d
          return .unit
    | "close_scope" =>
      let name ← str "scope"
      let exit ← field "exit"
      return Effect.suspend do
        let exit ← orPanic (exitOfJson (← evalIn b exit))
        let r ← lookupScope name
        return Effect.close r (exit.map fun _ => .unit)
    | "scope_state" =>
      let name ← str "scope"
      return Effect.sync do
        let r ← lookupScope name
        let closed ← Cmd.resourceClosed r
        let count ← Cmd.read fun d => (d.resource r).finalizers.length
        let exit ← Cmd.resourceExit r
        return .json (.mkObj [("closed", .bool closed), ("len", .nat count), ("empty", .bool (count == 0)),
          ("exit", (exit.map exitJson).getD .null)])
    | "dispose" =>
      let name ← str "handle"
      return Effect.sync do
        Cmd.dispose (← lookupHandle name)
        return .unit
    | "coroutine" =>
      let result ← field "result"
      return Effect.coroutine do coroutine n rt b (← Co.lift (orPanic (reqList j "steps"))) result
    | other => Cmd.panic s!"bad input: unknown effect op {other}"

/-- A fiber reference a script describes: its name, initial effect (`of null` by default),
fork policy (`"none"` drops the value; `{bind,value}` computes it), join policy
(`{parent,child,value}`) and, with `same_as`, the identity of another reference, read in that
order. -/
def newRef : Nat → Runtime → Bindings → Json → Cmd FiberRef
  | 0, _, _, _ => Cmd.panic "script nesting too deep"
  | n + 1, rt, b, j => do
    let name ← orPanic (reqStr j "name")
    let initial ← match opt j "initial" with
      | some e => build n rt b e
      | none => pure (Effect.of (.json .null))
    let slot ← Cmd.keepEffect initial
    let fresh : RefId ← Cmd.modify (·.freshRef name)
    let fork ← match opt j "fork" with
      | some (.str "none") => pure ForkPolicy.drop
      | some f => do
        let x ← orPanic (reqStr f "bind")
        let value ← orPanic (req f "value")
        let fn ← Cmd.keepFn fun v => do return .opt (some (.json (← evalIn (b.bind x (asJson v)) value)))
        pure (ForkPolicy.custom fn)
      | none => pure ForkPolicy.copy
    let join ← match opt j "join" with
      | some p => do
        let px ← orPanic (reqStr p "parent")
        let cx ← orPanic (reqStr p "child")
        let value ← orPanic (req p "value")
        let fn ← Cmd.keepFn fun v => do
          match v with
          | .list [current, incoming] =>
            return .json (← evalIn ((b.bind px (asJson current)).bind cx (asJson incoming)) value)
          | _ => return v
        pure (JoinPolicy.custom fn)
      | none => pure JoinPolicy.keepParent
    let id ← match ← orPanic (optStr j "same_as") with
      | some other => (·.id) <$> lookupRef other
      | none => pure fresh
    return { id, initial := some slot, fork, join }

/-- The body of a coroutine a script describes, from a step on: each bound effect is awaited,
and its value (or its cause, recovered) is bound for the rest; the result is the expression
`result`. A step with a `foreign` key waits on something that is no bound effect, and one with a
`both` key builds two effects and waits on both at once. The options of a step are read before its
effect is built, `cloned` only when the step is not polled twice, and its `bind` name after the
effect runs; a recovery reads its value before its name. -/
def coroutine : Nat → Runtime → Bindings → List Json → Json → Co Exit
  | 0, _, _, _, _ => Co.lift (Cmd.panic "script nesting too deep")
  | _ + 1, _, b, [], result => do return .ok (.json (← Co.lift (evalIn b result)))
  | n + 1, rt, b, s :: rest, result => do
    if present s "foreign" then Co.awaitForeign
    if let some both := s.field? "both" then
      let first ← Co.lift (build n rt b (Json.index both 0))
      let second ← Co.lift (build n rt b (Json.index both 1))
      Co.awaitBoth first second
    if (← Co.lift (orPanic (optBool s "poll_twice"))) != some true then
      discard <| Co.lift (orPanic (optBool s "cloned"))
    let e ← Co.lift (build n rt b (← Co.lift (orPanic (req s "effect"))))
    let bindStep (v : Json) : Cmd Bindings := do
      match ← orPanic (optStr s "bind") with
      | some x => pure (b.bind x v)
      | none => pure b
    match ← Co.await e with
    | .error c =>
      match opt s "recover" with
      | some r =>
        let b' ← Co.lift do
          let value ← orPanic (req r "value")
          let cx ← orPanic (reqStr r "bind")
          bindStep (← evalIn (b.bind cx (causeJson c)) value)
        coroutine n rt b' rest result
      | none => return .error c
    | .ok v => coroutine n rt (← Co.lift (bindStep (asJson v))) rest result

end

end FiberEffects.Script
