import FiberEffects.Config.Builder
import Mathlib

namespace FiberEffects

namespace Environment

def timeSourceSpelling (v : String) : Option TimeSource :=
  let t := Text.asciiLower (Text.trimBlank v)
  if t = "wall" ∨ t = "system" then some .wall
  else if t = "virtual" ∨ t = "test" then some .virtual
  else none

def flagSpelling (v : String) : Option Bool :=
  let t := (Text.trimBlank v).toLower
  if t ∈ ["true", "1", "yes", "on"] then some true
  else if t ∈ ["false", "0", "no", "off"] then some false
  else none

def digitsFrom (ds : List Char) (acc : Nat) : Nat := ds.foldl (fun n c => n * 10 + (c.toNat - 48)) acc

def countSpelling (v : String) : Option Nat :=
  let t := (Text.trimBlank v).toList
  let ds := if t.head? = some '+' then t.tail else t
  if ds ≠ [] ∧ (∀ c ∈ ds, c.isDigit) ∧ digitsFrom ds 0 < 2 ^ 64 then some (digitsFrom ds 0) else none

theorem toOption_bind {ε α β : Type} (e : Except ε α) (f : α → Except ε β) :
    (e >>= f).toOption = e.toOption.bind fun a => (f a).toOption := by
  cases e <;> rfl

theorem le_digitsFrom (ds : List Char) (acc : Nat) : acc ≤ digitsFrom ds acc := by
  induction ds generalizing acc with
  | nil => exact Nat.le_refl acc
  | cons c cs ih =>
    -- each digit multiplies the value read so far by ten before adding to it
    calc acc ≤ acc * 10 + (c.toNat - 48) := by omega
      _ ≤ digitsFrom cs (acc * 10 + (c.toNat - 48)) := ih _

theorem readDigits_toOption (ds : List Char) (acc : Nat) (hacc : acc < 2 ^ 64) :
    (readDigits ds acc).toOption =
      if (∀ c ∈ ds, c.isDigit) ∧ digitsFrom ds acc < 2 ^ 64 then some (digitsFrom ds acc) else none := by
  induction ds generalizing acc with
  | nil =>
    rw [if_pos ⟨fun _ h => absurd h List.not_mem_nil, hacc⟩]
    rfl
  | cons c cs ih =>
    have hstep : digitsFrom (c :: cs) acc = digitsFrom cs (acc * 10 + (c.toNat - 48)) := rfl
    by_cases hc : c.isDigit
    · have hall : (∀ d ∈ c :: cs, d.isDigit) ↔ ∀ d ∈ cs, d.isDigit := by simp [hc]
      rw [readDigits, if_pos hc]
      by_cases hbig : Nat.pow 2 64 ≤ acc * 10 + (c.toNat - 48)
      · -- the value only grows, so it ends as large as it is here
        have hle := le_digitsFrom cs (acc * 10 + (c.toNat - 48))
        have hbig' : 2 ^ 64 ≤ acc * 10 + (c.toNat - 48) := hbig
        rw [if_pos hbig, if_neg fun h => by rw [hstep] at h; omega]
        rfl
      · have hlt : acc * 10 + (c.toNat - 48) < 2 ^ 64 := Nat.lt_of_not_le hbig
        rw [if_neg hbig, ih _ hlt, hstep]
        simp only [hall]
    · rw [readDigits, if_neg hc, if_neg fun h => hc (h.1 c List.mem_cons_self)]
      rfl

theorem countSpelling_eq (v : String) :
    (parseUnsigned (Text.trimBlank v)).toOption = countSpelling v := by
  unfold countSpelling parseUnsigned
  generalize (Text.trimBlank v).toList = t
  cases t with
  | nil => rfl
  | cons c cs =>
    by_cases hc : c = '+'
    · subst hc
      cases cs with
      | nil => rfl
      | cons d ds =>
        show (readDigits (d :: ds) 0).toOption = _
        rw [readDigits_toOption _ 0 (by decide)]
        simp
    · -- without a sign every character is read as a digit
      split
      · next h => cases h
      · next h => exact absurd (List.cons.inj h).1 hc
      · next h => exact absurd (List.cons.inj h).1 hc
      · rw [readDigits_toOption _ 0 (by decide)]
        simp [hc]

theorem timeSourceSpelling_eq (v : String) : (TimeSource.parse v).toOption = timeSourceSpelling v := by
  unfold TimeSource.parse timeSourceSpelling
  split <;> simp_all [Except.toOption]

theorem flagSpelling_eq (v : String) : parseFlag v = flagSpelling v := by
  unfold parseFlag flagSpelling
  split <;> simp_all

theorem timeSourceOf_toOption (name v : String) : (timeSourceOf name v).toOption = timeSourceSpelling v := by
  rw [← timeSourceSpelling_eq, timeSourceOf]
  cases TimeSource.parse v <;> rfl

theorem unsignedOf_toOption (name v : String) : (unsignedOf name v).toOption = countSpelling v := by
  rw [← countSpelling_eq, unsignedOf]
  cases parseUnsigned (Text.trimBlank v) <;> rfl

theorem flagOf_toOption (name v : String) : (flagOf name v).toOption = flagSpelling v := by
  rw [← flagSpelling_eq, flagOf]
  cases parseFlag v <;> rfl

theorem toOption_pure {ε α : Type} (a : α) : (pure a : Except ε α).toOption = some a := rfl

theorem toOption_map {ε α β : Type} (f : α → β) (e : Except ε α) : (f <$> e).toOption = e.toOption.map f := by
  cases e <;> rfl

theorem apply_toOption (env : Environment) (c : RuntimeConfig) :
    (env.apply c).toOption = (do
      let ts ← (env.get? timeSourceVar).mapM timeSourceSpelling
      let ms ← (env.get? startVar).mapM countSpelling
      let i ← (env.get? interruptibleVar).mapM flagSpelling
      let t ← (env.get? traceVar).mapM flagSpelling
      pure { timeSource := ts.getD c.timeSource, startTime := (ms.map Time.ofMillis).or c.startTime,
             interruptible := i.getD c.interruptible, trace := t.getD c.trace }) := by
  unfold apply
  cases env.get? timeSourceVar <;> cases env.get? startVar <;> cases env.get? interruptibleVar <;>
    cases env.get? traceVar <;>
    simp [toOption_pure, toOption_bind, toOption_map, timeSourceOf_toOption, unsignedOf_toOption,
      flagOf_toOption, Option.map_eq_bind, Option.bind_assoc, Function.comp_def]

end Environment

namespace RuntimeConfig

/-- The configuration the layers give, field by field: the value of a builder call, else of the
environment variable, else of the configuration text, else of the base; a virtual clock left
without a start time then starts at the origin. None when a variable that is set is not spelled
as a value of its kind. -/
def byPrecedence (x : ExplicitSettings) (env : Environment) (s : FileSettings) (c : RuntimeConfig) :
    Option RuntimeConfig := do
  let ts ← (env.get? Environment.timeSourceVar).mapM Environment.timeSourceSpelling
  let ms ← (env.get? Environment.startVar).mapM Environment.countSpelling
  let i ← (env.get? Environment.interruptibleVar).mapM Environment.flagSpelling
  let t ← (env.get? Environment.traceVar).mapM Environment.flagSpelling
  let timeSource := (x.timeSource.or (ts.or s.timeSource)).getD c.timeSource
  let start := x.startTime.or ((ms.map Time.ofMillis).or ((s.startMillis.map Time.ofMillis).or c.startTime))
  pure { timeSource
         startTime := if timeSource = .virtual then start.or (some Time.zero) else start
         interruptible := (x.interruptible.or (i.or s.interruptible)).getD c.interruptible
         trace := (x.trace.or (t.or s.trace)).getD c.trace }

/-- Explicit settings over a configuration, then normalised, give each field by precedence. -/
theorem normalize_explicit_apply (x : ExplicitSettings) (c : RuntimeConfig) :
    (x.apply c).normalize =
      { timeSource := x.timeSource.getD c.timeSource
        startTime := if x.timeSource.getD c.timeSource = .virtual then (x.startTime.or c.startTime).or (some Time.zero)
          else x.startTime.or c.startTime
        interruptible := x.interruptible.getD c.interruptible
        trace := x.trace.getD c.trace } := by
  obtain ⟨ts, st, i, t⟩ := x
  unfold normalize ExplicitSettings.apply
  dsimp only
  -- a start time given explicitly wins over the configuration's, and either stops the origin
  by_cases hv : ts.getD c.timeSource = .virtual <;> cases st <;> cases c.startTime <;> simp [hv]

end RuntimeConfig

namespace RuntimeBuilder

/-- Resolving a configuration takes a builder call, else the environment, else the text, else the base. -/
theorem resolve_follows_precedence (c : RuntimeConfig) (s : FileSettings) (x : ExplicitSettings)
    (env : Environment) (shared : Bool) :
    (resolve { base := s.apply c, explicit := x, envOverrides := true, sharedClock := shared } env).toOption =
        RuntimeConfig.byPrecedence x env s c ∧
      ∀ e, resolve { base := s.apply c, explicit := x, envOverrides := true, sharedClock := shared } env = .error e →
        e.toHostError.kind = .config := by
  refine ⟨?_, fun _ _ => rfl⟩
  unfold resolve
  simp only [if_true]
  rw [Environment.toOption_bind, Environment.apply_toOption]
  unfold RuntimeConfig.byPrecedence
  -- the layers fail together, and where they all read, each field is taken by precedence
  cases (env.get? Environment.timeSourceVar).mapM Environment.timeSourceSpelling with
  | none => rfl
  | some ts =>
    cases (env.get? Environment.startVar).mapM Environment.countSpelling with
    | none => rfl
    | some ms =>
      cases (env.get? Environment.interruptibleVar).mapM Environment.flagSpelling with
      | none => rfl
      | some i =>
        cases (env.get? Environment.traceVar).mapM Environment.flagSpelling with
        | none => rfl
        | some t =>
          simp only [Environment.toOption_pure, RuntimeConfig.normalize_explicit_apply, FileSettings.apply,
            Option.getD_or]
          -- a start time from the text is the text's milliseconds, as the variable's is
          cases s.startMillis <;> rfl

end RuntimeBuilder

end FiberEffects
