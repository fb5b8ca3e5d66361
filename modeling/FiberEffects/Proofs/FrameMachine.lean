import FiberEffects.Proofs.Evaluation
import Mathlib

namespace FiberEffects

/-- What the loop keeps of a fiber between two turns. -/
structure Conf where
  instr : Effect
  frames : List Frame
  scopes : Scopes

/-- How a turn ends: with the next configuration, or with the exit the frames ran out with. -/
inductive TurnEnd where
  | next (σ : Conf)
  | done (x : Exit)

def Conf.enterFlags (e : Effect) (K : List Frame) (S : Scopes) (fl : Flags) : Conf :=
  ⟨e, .restore .flags :: (if S.env.flags.interruptible && !fl.interruptible then .interrupt :: K else K),
    S.pushFlags fl⟩

def TurnEnd.ofNext (K : List Frame) (S : Scopes) (o : Option Effect) : Option TurnEnd :=
  o.map fun e => .next ⟨e, K, S⟩

/-- Hands an exit to the frames within one turn. -/
def unwind (W : World) : Exit → List Frame → Scopes → Option TurnEnd
  | x, [], _ => some (.done x)
  | .ok v, .map g :: K, S =>
    match g v with
    | Prog.done v' => unwind W (.ok v') K S
    | Prog.panic m => some (.next ⟨Effect.failCause (.unexpected (W.stamp S.env) m), K, S⟩)
    | Prog.call _ _ => none
  | .ok v, .flatMap g :: K, S => TurnEnd.ofNext K S ((g v).nextAt (W.stamp S.env))
  | .ok v, .fold _ g :: K, S => TurnEnd.ofNext K S ((g v).nextAt (W.stamp S.env))
  | .ok v, .mapCause _ :: K, S => unwind W (.ok v) K S
  | .ok v, .flatMapCause _ :: K, S => unwind W (.ok v) K S
  | .error c, .map _ :: K, S => unwind W (.error c) K S
  | .error c, .flatMap _ :: K, S => unwind W (.error c) K S
  | .error c, .mapCause g :: K, S =>
    match g c with
    | Prog.done c' => unwind W (.error c') K S
    | Prog.panic m => some (.next ⟨Effect.failCause (.unexpected (W.stamp S.env) m), K, S⟩)
    | Prog.call _ _ => none
  | .error c, .flatMapCause g :: K, S => TurnEnd.ofNext K S ((g c).nextAt (W.stamp S.env))
  | .error c, .fold g _ :: K, S => TurnEnd.ofNext K S ((g c).nextAt (W.stamp S.env))
  | x, .interrupt :: K, S => unwind W x K S
  | x, .restore q :: K, S => unwind W x K (S.pop q)

/-- One turn of the loop when no interruption is requested; none for an instruction outside the
covered kinds or a callback that makes a request. -/
def turnOf (W : World) : Conf → Option TurnEnd
  | ⟨⟨.of v, _⟩, K, S⟩ => unwind W (.ok v) K S
  | ⟨⟨.fail c, _⟩, K, S⟩ => unwind W (.error c) K S
  | ⟨⟨.sync (Prog.done (.value v)), _⟩, K, S⟩ => unwind W (.ok v) K S
  | ⟨⟨.sync (Prog.done (.expected err)), _⟩, K, S⟩ =>
    unwind W (.error (.expected (W.stamp S.env) err)) K S
  | ⟨⟨.sync (Prog.done (.defect m)), _⟩, K, S⟩ => unwind W (.error (.unexpected (W.stamp S.env) m)) K S
  | ⟨⟨.sync (Prog.panic m), _⟩, K, S⟩ =>
    some (.next ⟨Effect.failCause (.unexpected (W.stamp S.env) m), K, S⟩)
  | ⟨⟨.sync (Prog.call _ _), _⟩, _, _⟩ => none
  | ⟨⟨.suspend build, _⟩, K, S⟩ => TurnEnd.ofNext K S (build.nextAt (W.stamp S.env))
  | ⟨⟨.stored k, _⟩, K, S⟩ => some (.next ⟨(W.effect k).getD Effect.unit, K, S⟩)
  | ⟨⟨.apply k arg, _⟩, K, S⟩ =>
    match W.builder k with
    | some g => TurnEnd.ofNext K S ((g arg).nextAt (W.stamp S.env))
    | none => some (.next ⟨Effect.unit, K, S⟩)
  | ⟨⟨.map e g, _⟩, K, S⟩ => some (.next ⟨e, .map g :: K, S⟩)
  | ⟨⟨.flatMap e g, _⟩, K, S⟩ => some (.next ⟨e, .flatMap g :: K, S⟩)
  | ⟨⟨.mapCause e g, _⟩, K, S⟩ => some (.next ⟨e, .mapCause g :: K, S⟩)
  | ⟨⟨.flatMapCause e g, _⟩, K, S⟩ => some (.next ⟨e, .flatMapCause g :: K, S⟩)
  | ⟨⟨.fold e onCause onValue, _⟩, K, S⟩ => some (.next ⟨e, .fold onCause onValue :: K, S⟩)
  | ⟨⟨.access g, _⟩, K, S⟩ => TurnEnd.ofNext K S ((g S.env.context).nextAt (W.stamp S.env))
  | ⟨⟨.provide e ctx, _⟩, K, S⟩ =>
    some (.next ⟨e, .restore .context :: K, S.pushContext (S.env.context.merge ctx)⟩)
  | ⟨⟨.await k, _⟩, K, S⟩ => TurnEnd.ofNext K S (W.future k)
  | ⟨⟨.setInterruptible e on, _⟩, K, S⟩ =>
    some (.next (Conf.enterFlags e K S { S.env.flags with interruptible := on }))
  | ⟨⟨.updateFlags e g, _⟩, K, S⟩ => some (.next (Conf.enterFlags e K S (g S.env.flags)))
  | ⟨⟨.getFlags, _⟩, K, S⟩ => unwind W (.ok (.flags S.env.flags)) K S
  | ⟨⟨.getStore, _⟩, K, S⟩ => unwind W (.ok (.store S.env.store)) K S
  | ⟨⟨.withStore e s, _⟩, K, S⟩ => some (.next ⟨e, .restore .store :: K, S.pushStore s⟩)
  | ⟨⟨.getOptions, _⟩, _, _⟩ => none
  | ⟨⟨.getScope, _⟩, _, _⟩ => none

/-- The loop, from a configuration, publishes `r`: a turn ends with `r`, or goes on to a
configuration from which the loop publishes `r`. -/
inductive Runs (W : World) : Conf → Exit → Prop
  | done {σ r} : turnOf W σ = some (.done r) → Runs W σ r
  | next {σ σ' r} : turnOf W σ = some (.next σ') → Runs W σ' r → Runs W σ r

def Conf.Final (W : World) (σ : Conf) (r : Exit) : Prop :=
  ∃ x, Evaluates W σ.scopes.env σ.instr x ∧ Resolves W σ.scopes σ.frames x r

namespace TurnEnd

def Reaches (W : World) (r : Exit) : TurnEnd → Prop
  | .next σ => Runs W σ r
  | .done x => x = r

def Leads (W : World) (r : Exit) : TurnEnd → Prop
  | .next σ => σ.Final W r
  | .done x => x = r

end TurnEnd

def Unwinds (W : World) (x : Exit) (K : List Frame) (S : Scopes) (r : Exit) : Prop :=
  ∃ t, unwind W x K S = some t ∧ t.Reaches W r

section Agreement

variable {W : World} {σ : Conf} {t : TurnEnd} {r x : Exit} {K : List Frame} {S : Scopes}

theorem Runs.of_turn (h : turnOf W σ = some t) (ht : t.Reaches W r) : Runs W σ r := by
  cases t with
  | next σ' => exact .next h ht
  | done x =>
    have hx : x = r := ht
    subst hx
    exact .done h

theorem Runs.of_unwinds (h : turnOf W σ = unwind W x K S) (hu : Unwinds W x K S r) : Runs W σ r := by
  obtain ⟨t, ht, hr⟩ := hu
  exact .of_turn (h.trans ht) hr

theorem Evaluates.fail_inv {env : Env} {c : Cause Json} {tr : Option String}
    (h : Evaluates W env ⟨.fail c, tr⟩ x) : x = .error c := by
  cases h
  rfl

namespace Unwinds

theorem nil : Unwinds W x [] S x := ⟨_, rfl, rfl⟩

theorem of_eq {x' : Exit} {K' : List Frame} {S' : Scopes} (h : unwind W x' K' S' = unwind W x K S)
    (hu : Unwinds W x K S r) : Unwinds W x' K' S' r := by
  obtain ⟨t, ht, hr⟩ := hu
  exact ⟨t, h.trans ht, hr⟩

theorem restore {q : Restore} (hu : Unwinds W x K (S.pop q) r) : Unwinds W x (.restore q :: K) S r :=
  of_eq (by cases x <;> rfl) hu

theorem interrupt (hu : Unwinds W x K S r) : Unwinds W x (.interrupt :: K) S r :=
  of_eq (by cases x <;> rfl) hu

theorem of_next {x' : Exit} {K' : List Frame} {p : Cmd Effect} {e : Effect}
    (h : unwind W x' K' S = TurnEnd.ofNext K S (p.nextAt (W.stamp S.env)))
    (hp : p.nextAt (W.stamp S.env) = some e) (hr : Runs W ⟨e, K, S⟩ r) : Unwinds W x' K' S r :=
  ⟨.next ⟨e, K, S⟩, by rw [h, hp]; rfl, hr⟩

theorem of_fail {x' : Exit} {K' : List Frame} {c : Cause Json}
    (h : unwind W x' K' S = some (.next ⟨Effect.failCause c, K, S⟩)) (hu : Unwinds W (.error c) K S r) :
    Unwinds W x' K' S r :=
  ⟨_, h, .of_unwinds rfl hu⟩

theorem map_ok {g : Val → Cmd Val} {v : Val} (hg : (g v).valueAt (W.stamp S.env) = some x)
    (hu : Unwinds W x K S r) : Unwinds W (.ok v) (.map g :: K) S r := by
  cases hv : g v with
  | done v' =>
    simp only [Prog.valueAt, hv, Option.some.injEq] at hg
    subst hg
    exact of_eq (by simp only [unwind, hv]) hu
  | panic m =>
    simp only [Prog.valueAt, hv, Option.some.injEq] at hg
    subst hg
    exact of_fail (by simp only [unwind, hv]) hu
  | call _ _ => simp [Prog.valueAt, hv] at hg

theorem mapCause_error {g : Cause Json → Cmd (Cause Json)} {c : Cause Json}
    (hg : (g c).causeAt (W.stamp S.env) = some x) (hu : Unwinds W x K S r) :
    Unwinds W (.error c) (.mapCause g :: K) S r := by
  cases hc : g c with
  | done c' =>
    simp only [Prog.causeAt, hc, Option.some.injEq] at hg
    subst hg
    exact of_eq (by simp only [unwind, hc]) hu
  | panic m =>
    simp only [Prog.causeAt, hc, Option.some.injEq] at hg
    subst hg
    exact of_fail (by simp only [unwind, hc]) hu
  | call _ _ => simp [Prog.causeAt, hc] at hg

theorem enterFlags {fl : Flags} (hu : Unwinds W x K S r) :
    Unwinds W x (.restore .flags ::
      (if S.env.flags.interruptible && !fl.interruptible then .interrupt :: K else K)) (S.pushFlags fl) r := by
  refine restore ?_
  rw [Scopes.pop_pushFlags]
  split
  · exact interrupt hu
  · exact hu

end Unwinds

theorem Evaluates.runs {env : Env} {e : Effect} (hev : Evaluates W env e x) :
    ∀ {K S r}, S.env = env → Unwinds W x K S r → Runs W ⟨e, K, S⟩ r := by
  induction hev with
  | of | fail | getFlags | getStore =>
    intro K S r hS hu
    subst hS
    exact .of_unwinds rfl hu
  | @sync env run t x hx =>
    intro K S r hS hu
    subst hS
    -- a body that returns hands its outcome to the frames; one that panics fails in a new turn
    cases run with
    | done o =>
      cases o <;> simp only [Prog.outcomeAt, Option.some.injEq] at hx <;> subst hx <;>
        exact .of_unwinds rfl hu
    | panic m =>
      simp only [Prog.outcomeAt, Option.some.injEq] at hx
      subst hx
      exact .next rfl (.of_unwinds rfl hu)
    | call _ _ => simp [Prog.outcomeAt] at hx
  | @suspend env build t e x hb _ ih =>
    intro K S r hS hu
    subst hS
    exact .next (by simp only [turnOf, hb]; rfl) (ih rfl hu)
  | stored _ ih =>
    intro K S r hS hu
    exact .next rfl (ih hS hu)
  | @apply env k arg t g e x hg hb _ ih =>
    intro K S r hS hu
    subst hS
    exact .next (by simp only [turnOf, hg, hb]; rfl) (ih rfl hu)
  | @applyMissing env k arg t x hg _ ih =>
    intro K S r hS hu
    exact .next (by simp only [turnOf, hg]) (ih hS hu)
  | @mapOk env e g t v x _ hg ih =>
    intro K S r hS hu
    subst hS
    exact .next rfl (ih rfl (.map_ok hg hu))
  | mapError _ ih =>
    intro K S r hS hu
    exact .next rfl (ih hS (.of_eq rfl hu))
  | @flatMapOk env e g t v e' x _ hg _ ih ih' =>
    intro K S r hS hu
    subst hS
    exact .next rfl (ih rfl (.of_next rfl hg (ih' rfl hu)))
  | flatMapError _ ih =>
    intro K S r hS hu
    exact .next rfl (ih hS (.of_eq rfl hu))
  | mapCauseOk _ ih =>
    intro K S r hS hu
    exact .next rfl (ih hS (.of_eq rfl hu))
  | @mapCauseError env e g t c x _ hg ih =>
    intro K S r hS hu
    subst hS
    exact .next rfl (ih rfl (.mapCause_error hg hu))
  | flatMapCauseOk _ ih =>
    intro K S r hS hu
    exact .next rfl (ih hS (.of_eq rfl hu))
  | @flatMapCauseError env e g t c e' x _ hg _ ih ih' =>
    intro K S r hS hu
    subst hS
    exact .next rfl (ih rfl (.of_next rfl hg (ih' rfl hu)))
  | @foldOk env e onCause onValue t v e' x _ hg _ ih ih' =>
    intro K S r hS hu
    subst hS
    exact .next rfl (ih rfl (.of_next rfl hg (ih' rfl hu)))
  | @foldError env e onCause onValue t c e' x _ hg _ ih ih' =>
    intro K S r hS hu
    subst hS
    exact .next rfl (ih rfl (.of_next rfl hg (ih' rfl hu)))
  | @access env g t e x hg _ ih =>
    intro K S r hS hu
    subst hS
    exact .next (by simp only [turnOf, hg]; rfl) (ih rfl hu)
  | provide _ ih =>
    intro K S r hS hu
    subst hS
    exact .next rfl (ih rfl (.restore (by simpa only [Scopes.pop_pushContext] using hu)))
  | @await env k t e x hk _ ih =>
    intro K S r hS hu
    exact .next (by simp only [turnOf, TurnEnd.ofNext, hk]; rfl) (ih hS hu)
  | setInterruptible _ ih =>
    intro K S r hS hu
    subst hS
    exact .next rfl (ih rfl (.enterFlags hu))
  | updateFlags _ ih =>
    intro K S r hS hu
    subst hS
    exact .next rfl (ih rfl (.enterFlags hu))
  | withStore _ ih =>
    intro K S r hS hu
    subst hS
    exact .next rfl (ih rfl (.restore (by simpa only [Scopes.pop_pushStore] using hu)))

/-- Frames that resolve `x` to `r` lead the loop, from `x`, to `r`. -/
theorem Resolves.unwinds (h : Resolves W S K x r) : Unwinds W x K S r := by
  induction h with
  | nil => exact .nil
  | mapOk hg _ ih => exact .map_ok hg ih
  | mapError _ ih | flatMapError _ ih | mapCauseOk _ ih | flatMapCauseOk _ ih => exact .of_eq rfl ih
  | mapCauseError hg _ ih => exact .mapCause_error hg ih
  | flatMapOk hg hev _ ih | flatMapCauseError hg hev _ ih | foldOk hg hev _ ih | foldError hg hev _ ih =>
    exact .of_next rfl hg (hev.runs rfl ih)
  | interrupt _ ih => exact .interrupt ih
  | restore _ ih => exact .restore ih

theorem TurnEnd.ofNext_eq_some {o : Option Effect} :
    TurnEnd.ofNext K S o = some t ↔ ∃ e, o = some e ∧ t = .next ⟨e, K, S⟩ := by
  simp only [TurnEnd.ofNext, Option.map_eq_some_iff]
  exact ⟨fun ⟨e, he, ht⟩ => ⟨e, he, ht.symm⟩, fun ⟨e, he, ht⟩ => ⟨e, he, ht.symm⟩⟩

theorem Conf.Final.of_fail {c : Cause Json} (h : Conf.Final W ⟨Effect.failCause c, K, S⟩ r) :
    Resolves W S K (.error c) r := by
  obtain ⟨y, hev, hres⟩ := h
  rw [hev.fail_inv] at hres
  exact hres

theorem Conf.Final.of_ofNext {o : Option Effect} (hu : TurnEnd.ofNext K S o = some t) (ht : t.Leads W r) :
    ∃ e, o = some e ∧ ∃ y, Evaluates W S.env e y ∧ Resolves W S K y r := by
  obtain ⟨e, he, rfl⟩ := TurnEnd.ofNext_eq_some.1 hu
  exact ⟨e, he, ht⟩

/-- What `unwind` does within a turn is what the frames' resolution does. -/
theorem resolves_of_unwind (hu : unwind W x K S = some t) (ht : t.Leads W r) : Resolves W S K x r := by
  induction K generalizing x S with
  | nil =>
    simp only [unwind, Option.some.injEq] at hu
    subst hu
    have hx : x = r := ht
    subst hx
    exact .nil
  | cons fr K ih =>
    cases fr with
    | map g =>
      cases x with
      | ok v =>
        cases hv : g v with
        | done v' =>
          simp only [unwind, hv] at hu
          exact .mapOk (by simp [Prog.valueAt, hv]) (ih hu)
        | panic m =>
          simp only [unwind, hv, Option.some.injEq] at hu
          subst hu
          exact .mapOk (by simp [Prog.valueAt, hv]) (Conf.Final.of_fail ht)
        | call _ _ => simp [unwind, hv] at hu
      | error c => exact .mapError (ih hu)
    | flatMap g =>
      cases x with
      | ok v =>
        obtain ⟨e, he, y, hev, hres⟩ := Conf.Final.of_ofNext hu ht
        exact .flatMapOk he hev hres
      | error c => exact .flatMapError (ih hu)
    | mapCause g =>
      cases x with
      | ok v => exact .mapCauseOk (ih hu)
      | error c =>
        cases hc : g c with
        | done c' =>
          simp only [unwind, hc] at hu
          exact .mapCauseError (by simp [Prog.causeAt, hc]) (ih hu)
        | panic m =>
          simp only [unwind, hc, Option.some.injEq] at hu
          subst hu
          exact .mapCauseError (by simp [Prog.causeAt, hc]) (Conf.Final.of_fail ht)
        | call _ _ => simp [unwind, hc] at hu
    | flatMapCause g =>
      cases x with
      | ok v => exact .flatMapCauseOk (ih hu)
      | error c =>
        obtain ⟨e, he, y, hev, hres⟩ := Conf.Final.of_ofNext hu ht
        exact .flatMapCauseError he hev hres
    | fold onCause onValue =>
      cases x with
      | ok v =>
        obtain ⟨e, he, y, hev, hres⟩ := Conf.Final.of_ofNext hu ht
        exact .foldOk he hev hres
      | error c =>
        obtain ⟨e, he, y, hev, hres⟩ := Conf.Final.of_ofNext hu ht
        exact .foldError he hev hres
    | interrupt => exact .interrupt (ih (by cases x <;> exact hu))
    | restore q => exact .restore (ih (by cases x <;> exact hu))

/-- Frames entered with flags, read back: they resolve as the frames under them. -/
theorem Resolves.of_enterFlags {fl : Flags} {y : Exit}
    (h : Resolves W (S.pushFlags fl) (.restore .flags ::
      (if S.env.flags.interruptible && !fl.interruptible then .interrupt :: K else K)) y r) :
    Resolves W S K y r := by
  cases h with
  | restore h =>
    rw [Scopes.pop_pushFlags] at h
    split at h
    · cases h with
      | interrupt h => exact h
    · exact h

/-- A turn, read back: the configuration evaluates to where the end of the turn leads. -/
theorem Conf.final_of_turn (h : turnOf W σ = some t) (ht : t.Leads W r) : σ.Final W r := by
  obtain ⟨⟨i, tr⟩, K, S⟩ := σ
  cases i with
  | of v => exact ⟨_, .of, resolves_of_unwind h ht⟩
  | fail c => exact ⟨_, .fail, resolves_of_unwind h ht⟩
  | getFlags => exact ⟨_, .getFlags, resolves_of_unwind h ht⟩
  | getStore => exact ⟨_, .getStore, resolves_of_unwind h ht⟩
  | sync run =>
    cases run with
    | done o =>
      cases o with
      | value v => exact ⟨_, .sync rfl, resolves_of_unwind h ht⟩
      | expected err => exact ⟨_, .sync rfl, resolves_of_unwind h ht⟩
      | defect m => exact ⟨_, .sync rfl, resolves_of_unwind h ht⟩
    | panic m =>
      simp only [turnOf, Option.some.injEq] at h
      subst h
      exact ⟨_, .sync rfl, Conf.Final.of_fail ht⟩
    | call _ _ => simp [turnOf] at h
  | suspend build =>
    obtain ⟨e, he, y, hev, hres⟩ := Conf.Final.of_ofNext h ht
    exact ⟨y, .suspend he hev, hres⟩
  | stored k =>
    simp only [turnOf, Option.some.injEq] at h
    subst h
    obtain ⟨y, hev, hres⟩ := ht
    exact ⟨y, .stored hev, hres⟩
  | apply k arg =>
    cases hk : W.builder k with
    | some g =>
      simp only [turnOf, hk] at h
      obtain ⟨e, he, y, hev, hres⟩ := Conf.Final.of_ofNext h ht
      exact ⟨y, .apply hk he hev, hres⟩
    | none =>
      simp only [turnOf, hk, Option.some.injEq] at h
      subst h
      obtain ⟨y, hev, hres⟩ := ht
      exact ⟨y, .applyMissing hk hev, hres⟩
  | map e g =>
    simp only [turnOf, Option.some.injEq] at h
    subst h
    obtain ⟨y, hev, hres⟩ := ht
    cases hres with
    | mapOk hg hres => exact ⟨_, .mapOk hev hg, hres⟩
    | mapError hres => exact ⟨_, .mapError hev, hres⟩
  | flatMap e g =>
    simp only [turnOf, Option.some.injEq] at h
    subst h
    obtain ⟨y, hev, hres⟩ := ht
    cases hres with
    | flatMapOk hg hev' hres => exact ⟨_, .flatMapOk hev hg hev', hres⟩
    | flatMapError hres => exact ⟨_, .flatMapError hev, hres⟩
  | mapCause e g =>
    simp only [turnOf, Option.some.injEq] at h
    subst h
    obtain ⟨y, hev, hres⟩ := ht
    cases hres with
    | mapCauseOk hres => exact ⟨_, .mapCauseOk hev, hres⟩
    | mapCauseError hg hres => exact ⟨_, .mapCauseError hev hg, hres⟩
  | flatMapCause e g =>
    simp only [turnOf, Option.some.injEq] at h
    subst h
    obtain ⟨y, hev, hres⟩ := ht
    cases hres with
    | flatMapCauseOk hres => exact ⟨_, .flatMapCauseOk hev, hres⟩
    | flatMapCauseError hg hev' hres => exact ⟨_, .flatMapCauseError hev hg hev', hres⟩
  | fold e onCause onValue =>
    simp only [turnOf, Option.some.injEq] at h
    subst h
    obtain ⟨y, hev, hres⟩ := ht
    cases hres with
    | foldOk hg hev' hres => exact ⟨_, .foldOk hev hg hev', hres⟩
    | foldError hg hev' hres => exact ⟨_, .foldError hev hg hev', hres⟩
  | access g =>
    obtain ⟨e, he, y, hev, hres⟩ := Conf.Final.of_ofNext h ht
    exact ⟨y, .access he hev, hres⟩
  | provide e ctx =>
    simp only [turnOf, Option.some.injEq] at h
    subst h
    obtain ⟨y, hev, hres⟩ := ht
    cases hres with
    | restore hres =>
      rw [Scopes.pop_pushContext] at hres
      exact ⟨y, .provide hev, hres⟩
  | await k =>
    obtain ⟨e, he, y, hev, hres⟩ := Conf.Final.of_ofNext h ht
    exact ⟨y, .await he hev, hres⟩
  | setInterruptible e on =>
    simp only [turnOf, Option.some.injEq] at h
    subst h
    obtain ⟨y, hev, hres⟩ := ht
    exact ⟨y, .setInterruptible hev, Resolves.of_enterFlags hres⟩
  | updateFlags e g =>
    simp only [turnOf, Option.some.injEq] at h
    subst h
    obtain ⟨y, hev, hres⟩ := ht
    exact ⟨y, .updateFlags hev, Resolves.of_enterFlags hres⟩
  | withStore e s =>
    simp only [turnOf, Option.some.injEq] at h
    subst h
    obtain ⟨y, hev, hres⟩ := ht
    cases hres with
    | restore hres =>
      rw [Scopes.pop_pushStore] at hres
      exact ⟨y, .withStore hev, hres⟩
  | getOptions => simp [turnOf] at h
  | getScope => simp [turnOf] at h

theorem Runs.final (h : Runs W σ r) : σ.Final W r := by
  induction h with
  | done h => exact Conf.final_of_turn h rfl
  | next h _ ih => exact Conf.final_of_turn h ih

theorem runs_iff_final : Runs W σ r ↔ σ.Final W r :=
  ⟨Runs.final, fun ⟨_, hev, hres⟩ => hev.runs rfl hres.unwinds⟩

end Agreement

namespace Prog

def Pure {α : Type} : Cmd α → Prop
  | Prog.call _ _ => False
  | _ => True

def BuildsIn (E : Set Effect) : Cmd Effect → Prop
  | Prog.done e => e ∈ E
  | Prog.panic _ => True
  | Prog.call _ _ => False

end Prog

def Frame.Within (E : Set Effect) : Frame → Prop
  | .map g => ∀ v, (g v).Pure
  | .flatMap g => ∀ v, (g v).BuildsIn E
  | .mapCause g => ∀ c, (g c).Pure
  | .flatMapCause g => ∀ c, (g c).BuildsIn E
  | .fold onCause onValue => (∀ c, (onCause c).BuildsIn E) ∧ ∀ v, (onValue v).BuildsIn E
  | .interrupt | .restore _ => True

/-- An instruction of the covered kinds whose callbacks make no request, and whose inner effect
and whatever effect it may go on with are in `E`. -/
def Instr.Within (W : World) (E : Set Effect) : Instr → Prop
  | .of _ | .fail _ | .getFlags | .getStore => True
  | .sync run => run.Pure
  | .suspend build => build.BuildsIn E
  | .stored k => (W.effect k).getD Effect.unit ∈ E
  | .apply k arg =>
    match W.builder k with
    | some g => (g arg).BuildsIn E
    | none => Effect.unit ∈ E
  | .map e g => e ∈ E ∧ (Frame.map g).Within E
  | .flatMap e g => e ∈ E ∧ (Frame.flatMap g).Within E
  | .mapCause e g => e ∈ E ∧ (Frame.mapCause g).Within E
  | .flatMapCause e g => e ∈ E ∧ (Frame.flatMapCause g).Within E
  | .fold e onCause onValue => e ∈ E ∧ (Frame.fold onCause onValue).Within E
  | .access g => ∀ ctx, (g ctx).BuildsIn E
  | .provide e _ | .setInterruptible e _ | .updateFlags e _ | .withStore e _ => e ∈ E
  | .await k => ∀ e, W.future k = some e → e ∈ E
  | .getOptions | .getScope => False

def Closed (W : World) (E : Set Effect) : Prop := ∀ e ∈ E, e.instr.Within W E

/-- A configuration of the covered fragment. -/
structure Conf.Within (W : World) (E : Set Effect) (σ : Conf) : Prop where
  instr : σ.instr.instr.Within W E
  frames : ∀ fr ∈ σ.frames, fr.Within E

def TurnEnd.Within (W : World) (E : Set Effect) : TurnEnd → Prop
  | .next σ => σ.Within W E
  | .done _ => True

section Fragment

variable {W : World} {E : Set Effect} {K : List Frame} {S : Scopes}

theorem Prog.BuildsIn.next (hE : Closed W E) {p : Cmd Effect} (hp : p.BuildsIn E) (τ : Time) :
    ∃ e, p.nextAt τ = some e ∧ e.instr.Within W E := by
  cases p with
  | done e => exact ⟨e, rfl, hE e hp⟩
  | panic m => exact ⟨_, rfl, trivial⟩
  | call _ _ => exact hp.elim

theorem TurnEnd.within_ofNext (hE : Closed W E) (hK : ∀ fr ∈ K, fr.Within E) {p : Cmd Effect}
    (hp : p.BuildsIn E) (S : Scopes) (τ : Time) :
    ∃ t, TurnEnd.ofNext K S (p.nextAt τ) = some t ∧ t.Within W E := by
  obtain ⟨e, he, hw⟩ := hp.next hE τ
  exact ⟨.next ⟨e, K, S⟩, by rw [he]; rfl, ⟨hw, hK⟩⟩

theorem unwind_within (hE : Closed W E) (hK : ∀ fr ∈ K, fr.Within E) (x : Exit) (S : Scopes) :
    ∃ t, unwind W x K S = some t ∧ t.Within W E := by
  induction K generalizing x S with
  | nil => exact ⟨_, rfl, trivial⟩
  | cons fr K ih =>
    have hK' : ∀ fr ∈ K, fr.Within E := fun fr' h => hK fr' (List.mem_cons_of_mem _ h)
    have hfr : fr.Within E := hK fr List.mem_cons_self
    cases fr with
    | map g =>
      cases x with
      | ok v =>
        cases hv : g v with
        | done v' => simpa only [unwind, hv] using ih hK' (.ok v') S
        | panic m => exact ⟨.next ⟨Effect.failCause (.unexpected (W.stamp S.env) m), K, S⟩, by simp only [unwind, hv], ⟨trivial, hK'⟩⟩
        | call _ _ => exact absurd (hfr v) (by simp [hv, Prog.Pure])
      | error c => exact ih hK' _ S
    | flatMap g =>
      cases x with
      | ok v => exact TurnEnd.within_ofNext hE hK' (hfr v) S _
      | error c => exact ih hK' _ S
    | mapCause g =>
      cases x with
      | ok v => exact ih hK' _ S
      | error c =>
        cases hc : g c with
        | done c' => simpa only [unwind, hc] using ih hK' (.error c') S
        | panic m => exact ⟨.next ⟨Effect.failCause (.unexpected (W.stamp S.env) m), K, S⟩, by simp only [unwind, hc], ⟨trivial, hK'⟩⟩
        | call _ _ => exact absurd (hfr c) (by simp [hc, Prog.Pure])
    | flatMapCause g =>
      cases x with
      | ok v => exact ih hK' _ S
      | error c => exact TurnEnd.within_ofNext hE hK' (hfr c) S _
    | fold onCause onValue =>
      cases x with
      | ok v => exact TurnEnd.within_ofNext hE hK' (hfr.2 v) S _
      | error c => exact TurnEnd.within_ofNext hE hK' (hfr.1 c) S _
    | interrupt => cases x <;> exact ih hK' _ S
    | restore q => cases x <;> exact ih hK' _ (S.pop q)

/-- The frames after entering flags are in the fragment with the frames under them. -/
theorem within_enterFlags (hK : ∀ fr ∈ K, fr.Within E) (e : Effect) (fl : Flags) :
    ∀ fr ∈ (Conf.enterFlags e K S fl).frames, fr.Within E := by
  intro fr hfr
  simp only [Conf.enterFlags, List.mem_cons] at hfr
  rcases hfr with rfl | hfr
  · trivial
  · split at hfr
    · rcases List.mem_cons.1 hfr with rfl | hfr
      · trivial
      · exact hK fr hfr
    · exact hK fr hfr

theorem Conf.Within.turn (hE : Closed W E) {σ : Conf} (hσ : σ.Within W E) :
    (∃ t, turnOf W σ = some t ∧ t.Within W E) ∨
      ∃ k tr, σ.instr = ⟨.await k, tr⟩ ∧ W.future k = none := by
  obtain ⟨⟨i, tr⟩, K, S⟩ := σ
  obtain ⟨hi, hK⟩ := hσ
  simp only at hK
  -- an inner effect or a built effect is in the set, so the next configuration is of the fragment
  have inner : ∀ {e : Effect} {K' : List Frame} (S' : Scopes), e ∈ E → (∀ fr ∈ K', fr.Within E) →
      (TurnEnd.next ⟨e, K', S'⟩).Within W E := fun _ he hK' => ⟨hE _ he, hK'⟩
  cases i with
  | of v | fail c | getFlags | getStore => exact .inl (unwind_within hE hK _ S)
  | sync run =>
    cases run with
    | done o => cases o <;> exact .inl (unwind_within hE hK _ S)
    | panic m => exact .inl ⟨_, rfl, ⟨trivial, hK⟩⟩
    | call _ _ => exact hi.elim
  | suspend build => exact .inl (TurnEnd.within_ofNext hE hK hi S _)
  | stored k => exact .inl ⟨_, rfl, inner S hi hK⟩
  | apply k arg =>
    cases hk : W.builder k with
    | some g =>
      simp only [Effect.instr, Instr.Within, hk] at hi
      obtain ⟨t, ht, hw⟩ := TurnEnd.within_ofNext hE hK hi S (W.stamp S.env)
      exact .inl ⟨t, by simp only [turnOf, hk, ht], hw⟩
    | none =>
      simp only [Effect.instr, Instr.Within, hk] at hi
      exact .inl ⟨_, by simp only [turnOf, hk], inner S hi hK⟩
  | map e g | flatMap e g | mapCause e g | flatMapCause e g =>
    refine .inl ⟨_, rfl, inner S hi.1 ?_⟩
    intro fr hfr
    rcases List.mem_cons.1 hfr with rfl | hfr
    · exact hi.2
    · exact hK fr hfr
  | fold e onCause onValue =>
    refine .inl ⟨_, rfl, inner S hi.1 ?_⟩
    intro fr hfr
    rcases List.mem_cons.1 hfr with rfl | hfr
    · exact hi.2
    · exact hK fr hfr
  | access g => exact .inl (TurnEnd.within_ofNext hE hK (hi _) S _)
  | provide e ctx | withStore e ctx =>
    refine .inl ⟨_, rfl, inner _ hi ?_⟩
    intro fr hfr
    rcases List.mem_cons.1 hfr with rfl | hfr
    · trivial
    · exact hK fr hfr
  | await k =>
    cases hk : W.future k with
    | some e => exact .inl ⟨_, by simp only [turnOf, TurnEnd.ofNext, hk]; rfl, inner S (hi e hk) hK⟩
    | none => exact .inr ⟨k, tr, rfl, hk⟩
  | setInterruptible e on => exact .inl ⟨_, rfl, ⟨hE _ hi, within_enterFlags hK e _⟩⟩
  | updateFlags e g => exact .inl ⟨_, rfl, ⟨hE _ hi, within_enterFlags hK e _⟩⟩
  | getOptions | getScope => exact hi.elim

end Fragment

end FiberEffects
