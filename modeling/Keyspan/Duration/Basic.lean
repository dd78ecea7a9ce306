import Keyspan.Failure
import Keyspan.Number.Double

/-!
# Durations

A duration is a whole number of microseconds within a fixed range: at most 999 999 999 days in
either direction, the last day included. The range is part of the type, so a duration that exists
is in range, and `Duration.ofMicros` is where a number out of range becomes a failure.

Results: `ofMicros_eq_ok_iff` and `ofMicros_eq_error_iff`: a number of microseconds is a duration
iff it is in range, and the failure of the others is a matter of size, never of form.
-/

namespace Keyspan

/-- The microseconds of a day. -/
def microsPerDay : Int := 86400000000

/-- The greatest number of days of a duration, in either direction. -/
def maxDays : Int := 999999999

/-- The numbers of microseconds that make a duration: the days, rounded down, are in range. -/
def Duration.InRange (micros : Int) : Prop :=
  -maxDays * microsPerDay ≤ micros ∧ micros < (maxDays + 1) * microsPerDay

instance (micros : Int) : Decidable (Duration.InRange micros) :=
  inferInstanceAs (Decidable (_ ∧ _))

/-- A duration in whole microseconds. -/
structure Duration where
  micros : Int
  inRange : Duration.InRange micros
  deriving DecidableEq

namespace Duration

/-- **A duration of the given number of microseconds.** Out of range the failure names the days,
unless their number itself is beyond 32 bits. -/
def ofMicros (micros : Int) : Except Failure Duration :=
  if h : InRange micros then .ok ⟨micros, h⟩
  else
    let days := micros / microsPerDay
    if -2147483648 ≤ days ∧ days ≤ 2147483647 then .error (.daysOutOfRange days)
    else .error .daysUncountable

def ofMillis (millis : Int) : Except Failure Duration := ofMicros (millis * 1000)

/-- The length in seconds, as the nearest floating-point number. -/
def seconds (d : Duration) : Double := Double.quotient d.micros 1000000

theorem ofMicros_eq_ok_iff {micros : Int} {d : Duration} :
    ofMicros micros = .ok d ↔ d.micros = micros := by
  unfold ofMicros
  constructor
  · intro h
    split at h
    · rw [← Except.ok.inj h]
    · dsimp only at h
      split at h <;> simp at h
  · intro h
    subst h
    rw [dif_pos d.inRange]

/-- **A number is refused iff it is out of range**, and then for its size. -/
theorem ofMicros_eq_error_iff {micros : Int} :
    (∃ f, ofMicros micros = .error f ∧ f.category = .outOfRange) ↔ ¬ InRange micros := by
  unfold ofMicros
  constructor
  · rintro ⟨f, hf, _⟩ h
    rw [dif_pos h] at hf
    simp at hf
  · intro h
    rw [dif_neg h]
    dsimp only
    split
    · exact ⟨_, rfl, rfl⟩
    · exact ⟨_, rfl, rfl⟩

end Duration

end Keyspan
