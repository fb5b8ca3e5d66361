import FiberEffects.Effect.Value
import FiberEffects.Proofs.TimelineEntries

namespace FiberEffects

namespace Timeline

variable {α : Type} {t : Timeline α}

/-- Draining once the nearest arrival has come hands back the task at that arrival first. -/
theorem takeReady_head {next now : Time} (hnext : t.nextArrival = some next) (hle : next ≤ now) :
    ∃ x, t.entries.head?.map Prod.snd = some x ∧ (t.takeReady now).1.head? = some x := by
  rw [nextArrival_eq_head] at hnext
  rw [takeReady_fst]
  cases hent : t.entries with
  | nil => simp [hent] at hnext
  | cons e rest =>
    have harr : e.1.arrival = next := by simpa [hent] using hnext
    have hready : decide (e.1.arrival ≤ now) = true := by
      rw [harr]
      exact decide_eq_true hle
    refine ⟨e.2, rfl, ?_⟩
    simp [hready]

end Timeline

namespace SourceClock

theorem unixTime_nanos (c : SourceClock) (r : Time) :
    (c.unixTime r).nanos = min (c.start.nanos + min (r.nanos - c.origin.nanos) maxNanos) maxNanos :=
  rfl

theorem add_since_nanos (now next u : Time) :
    (now.add (next.since u)).nanos = min (now.nanos + (next.nanos - u.nanos)) maxNanos :=
  rfl

theorem unixTime_reaches (c : SourceClock) {now r next : Time} (hstart : c.origin ≤ now)
    (hfire : now.add (next.since (c.unixTime now)) ≤ r)
    (hsat : c.origin ≤ c.start ∨ now.nanos + (next.since (c.unixTime now)).nanos ≤ maxNanos) :
    next ≤ c.unixTime r := by
  have hnext := next.bounded
  have hr := r.bounded
  have hnow := now.bounded
  have hstart' : c.origin.nanos ≤ now.nanos := hstart
  have hfire' : (now.add (next.since (c.unixTime now))).nanos ≤ r.nanos := hfire
  rw [add_since_nanos, unixTime_nanos] at hfire'
  show next.nanos ≤ (c.unixTime r).nanos
  rw [unixTime_nanos]
  rcases hsat with hs | hs
  · have hs' : c.origin.nanos ≤ c.start.nanos := hs
    omega
  · rw [Time.since, unixTime_nanos] at hs
    dsimp only at hs
    omega

theorem firing_reaches_arrival (c : SourceClock) (t : Timeline Nat) {now r next : Time}
    (hnext : t.nextArrival = some next) (hstart : c.origin ≤ now)
    (hfire : now.add (next.since (c.unixTime now)) ≤ r)
    (hsat : c.origin ≤ c.start ∨ now.nanos + (next.since (c.unixTime now)).nanos ≤ maxNanos) :
    next ≤ c.unixTime r ∧
      ∃ x, t.entries.head?.map Prod.snd = some x ∧ (t.takeReady (c.unixTime r)).1.head? = some x := by
  have hle := c.unixTime_reaches hstart hfire hsat
  exact ⟨hle, Timeline.takeReady_head hnext hle⟩

end SourceClock

end FiberEffects
