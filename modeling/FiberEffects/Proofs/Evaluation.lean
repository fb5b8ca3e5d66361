import FiberEffects.Fiber.Machine

namespace FiberEffects

/-- What an evaluation reads from outside the effect. -/
structure World where
  time : Context → Nat → Time
  future : Nat → Option Effect
  effect : Nat → Option Effect
  builder : Nat → Option (Val → Cmd Effect)

/-- The scoped values an effect is reached with. -/
structure Env where
  context : Context
  store : Nat
  flags : Flags

def Options.env (opts : Options) : Env := ⟨opts.context, opts.store, opts.flags⟩

def World.stamp (W : World) (env : Env) : Time := W.time env.context env.store

/-- The scoped values of a running fiber, each a stack of overrides over its base. -/
structure Scopes where
  context : ScopedStack Context
  stores : ScopedStack Nat
  flags : ScopedStack Flags

namespace Scopes

variable (S : Scopes)

def env : Env := ⟨S.context.current, S.stores.current, S.flags.current⟩

def pop : Restore → Scopes
  | .context => { S with context := S.context.pop.2 }
  | .store => { S with stores := S.stores.pop.2 }
  | .flags => { S with flags := S.flags.pop.2 }

def pushContext (c : Context) : Scopes := { S with context := S.context.push c }

def pushStore (s : Nat) : Scopes := { S with stores := S.stores.push s }

def pushFlags (fl : Flags) : Scopes := { S with flags := S.flags.push fl }

@[simp] theorem env_pushContext (c : Context) : (S.pushContext c).env = { S.env with context := c } := rfl

@[simp] theorem env_pushStore (s : Nat) : (S.pushStore s).env = { S.env with store := s } := rfl

@[simp] theorem env_pushFlags (fl : Flags) : (S.pushFlags fl).env = { S.env with flags := fl } := rfl

@[simp] theorem pop_pushContext (c : Context) : (S.pushContext c).pop .context = S := by
  simp [pushContext, pop]

@[simp] theorem pop_pushStore (s : Nat) : (S.pushStore s).pop .store = S := by
  simp [pushStore, pop]

@[simp] theorem pop_pushFlags (fl : Flags) : (S.pushFlags fl).pop .flags = S := by
  simp [pushFlags, pop]

end Scopes

namespace Prog

def nextAt (τ : Time) : Cmd Effect → Option Effect
  | Prog.done e => some e
  | Prog.panic m => some (Effect.failCause (.unexpected τ m))
  | Prog.call _ _ => none

def valueAt (τ : Time) : Cmd Val → Option Exit
  | Prog.done v => some (.ok v)
  | Prog.panic m => some (.error (.unexpected τ m))
  | Prog.call _ _ => none

def causeAt (τ : Time) : Cmd (Cause Json) → Option Exit
  | Prog.done c => some (.error c)
  | Prog.panic m => some (.error (.unexpected τ m))
  | Prog.call _ _ => none

def outcomeAt (τ : Time) : Cmd SyncOutcome → Option Exit
  | Prog.done (.value v) => some (.ok v)
  | Prog.done (.expected err) => some (.error (.expected τ err))
  | Prog.done (.defect m) => some (.error (.unexpected τ m))
  | Prog.panic m => some (.error (.unexpected τ m))
  | Prog.call _ _ => none

end Prog

/-- `Evaluates W env e x`: the effect `e`, reached with `env`, ends with `x`. -/
inductive Evaluates (W : World) : Env → Effect → Exit → Prop
  | of {env v t} : Evaluates W env ⟨.of v, t⟩ (.ok v)
  | fail {env c t} : Evaluates W env ⟨.fail c, t⟩ (.error c)
  | sync {env run t x} : run.outcomeAt (W.stamp env) = some x → Evaluates W env ⟨.sync run, t⟩ x
  | suspend {env build t e x} : build.nextAt (W.stamp env) = some e → Evaluates W env e x →
      Evaluates W env ⟨.suspend build, t⟩ x
  | stored {env k t x} : Evaluates W env ((W.effect k).getD Effect.unit) x →
      Evaluates W env ⟨.stored k, t⟩ x
  | apply {env k arg t g e x} : W.builder k = some g → (g arg).nextAt (W.stamp env) = some e →
      Evaluates W env e x → Evaluates W env ⟨.apply k arg, t⟩ x
  | applyMissing {env k arg t x} : W.builder k = none → Evaluates W env Effect.unit x →
      Evaluates W env ⟨.apply k arg, t⟩ x
  | mapOk {env e g t v x} : Evaluates W env e (.ok v) → (g v).valueAt (W.stamp env) = some x →
      Evaluates W env ⟨.map e g, t⟩ x
  | mapError {env e g t c} : Evaluates W env e (.error c) →
      Evaluates W env ⟨.map e g, t⟩ (.error c)
  | flatMapOk {env e g t v e' x} : Evaluates W env e (.ok v) →
      (g v).nextAt (W.stamp env) = some e' → Evaluates W env e' x →
      Evaluates W env ⟨.flatMap e g, t⟩ x
  | flatMapError {env e g t c} : Evaluates W env e (.error c) →
      Evaluates W env ⟨.flatMap e g, t⟩ (.error c)
  | mapCauseOk {env e g t v} : Evaluates W env e (.ok v) →
      Evaluates W env ⟨.mapCause e g, t⟩ (.ok v)
  | mapCauseError {env e g t c x} : Evaluates W env e (.error c) →
      (g c).causeAt (W.stamp env) = some x → Evaluates W env ⟨.mapCause e g, t⟩ x
  | flatMapCauseOk {env e g t v} : Evaluates W env e (.ok v) →
      Evaluates W env ⟨.flatMapCause e g, t⟩ (.ok v)
  | flatMapCauseError {env e g t c e' x} : Evaluates W env e (.error c) →
      (g c).nextAt (W.stamp env) = some e' → Evaluates W env e' x →
      Evaluates W env ⟨.flatMapCause e g, t⟩ x
  | foldOk {env e onCause onValue t v e' x} : Evaluates W env e (.ok v) →
      (onValue v).nextAt (W.stamp env) = some e' → Evaluates W env e' x →
      Evaluates W env ⟨.fold e onCause onValue, t⟩ x
  | foldError {env e onCause onValue t c e' x} : Evaluates W env e (.error c) →
      (onCause c).nextAt (W.stamp env) = some e' → Evaluates W env e' x →
      Evaluates W env ⟨.fold e onCause onValue, t⟩ x
  | access {env g t e x} : (g env.context).nextAt (W.stamp env) = some e → Evaluates W env e x →
      Evaluates W env ⟨.access g, t⟩ x
  | provide {env e ctx t x} : Evaluates W { env with context := env.context.merge ctx } e x →
      Evaluates W env ⟨.provide e ctx, t⟩ x
  | await {env k t e x} : W.future k = some e → Evaluates W env e x →
      Evaluates W env ⟨.await k, t⟩ x
  | setInterruptible {env e on t x} :
      Evaluates W { env with flags := { env.flags with interruptible := on } } e x →
      Evaluates W env ⟨.setInterruptible e on, t⟩ x
  | updateFlags {env e g t x} : Evaluates W { env with flags := g env.flags } e x →
      Evaluates W env ⟨.updateFlags e g, t⟩ x
  | getFlags {env t} : Evaluates W env ⟨.getFlags, t⟩ (.ok (.flags env.flags))
  | getStore {env t} : Evaluates W env ⟨.getStore, t⟩ (.ok (.store env.store))
  | withStore {env e s t x} : Evaluates W { env with store := s } e x →
      Evaluates W env ⟨.withStore e s, t⟩ x

/-- `Resolves W S K x r`: the exit `x`, handed to the frames `K` under the scoped stacks `S`,
ends as `r`. A frame of the other path and an interruption marker pass the exit on, a restore
frame leaves its scope, and the frames that continue with an effect evaluate it under the scopes
in force there. -/
inductive Resolves (W : World) : Scopes → List Frame → Exit → Exit → Prop
  | nil {S x} : Resolves W S [] x x
  | mapOk {S g K v y r} : (g v).valueAt (W.stamp S.env) = some y → Resolves W S K y r →
      Resolves W S (.map g :: K) (.ok v) r
  | mapError {S g K c r} : Resolves W S K (.error c) r → Resolves W S (.map g :: K) (.error c) r
  | flatMapOk {S g K v e y r} : (g v).nextAt (W.stamp S.env) = some e → Evaluates W S.env e y →
      Resolves W S K y r → Resolves W S (.flatMap g :: K) (.ok v) r
  | flatMapError {S g K c r} : Resolves W S K (.error c) r →
      Resolves W S (.flatMap g :: K) (.error c) r
  | mapCauseOk {S g K v r} : Resolves W S K (.ok v) r → Resolves W S (.mapCause g :: K) (.ok v) r
  | mapCauseError {S g K c y r} : (g c).causeAt (W.stamp S.env) = some y → Resolves W S K y r →
      Resolves W S (.mapCause g :: K) (.error c) r
  | flatMapCauseOk {S g K v r} : Resolves W S K (.ok v) r →
      Resolves W S (.flatMapCause g :: K) (.ok v) r
  | flatMapCauseError {S g K c e y r} : (g c).nextAt (W.stamp S.env) = some e →
      Evaluates W S.env e y → Resolves W S K y r → Resolves W S (.flatMapCause g :: K) (.error c) r
  | foldOk {S onCause onValue K v e y r} : (onValue v).nextAt (W.stamp S.env) = some e →
      Evaluates W S.env e y → Resolves W S K y r →
      Resolves W S (.fold onCause onValue :: K) (.ok v) r
  | foldError {S onCause onValue K c e y r} : (onCause c).nextAt (W.stamp S.env) = some e →
      Evaluates W S.env e y → Resolves W S K y r →
      Resolves W S (.fold onCause onValue :: K) (.error c) r
  | interrupt {S K x r} : Resolves W S K x r → Resolves W S (.interrupt :: K) x r
  | restore {S q K x r} : Resolves W (S.pop q) K x r → Resolves W S (.restore q :: K) x r

end FiberEffects
