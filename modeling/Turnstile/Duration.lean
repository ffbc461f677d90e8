import Turnstile.Decimal.Binary
import Turnstile.Word

/-!
# Spans of time

A duration is a whole number of nanoseconds. Seconds written as a double are read to the nearest
nanosecond, and refused when they are negative, too many or not a number.
-/

namespace Turnstile

/-- A span of time in whole nanoseconds. -/
structure Duration where
  nanos : Nat
  deriving DecidableEq, Repr, Inhabited

/-- Why a number of seconds is no duration. -/
inductive DurationError where
  | negative
  | outOfRange
  deriving DecidableEq, Repr

/-- The wording of a duration error. -/
def DurationError.message : DurationError → String
  | .negative => "cannot convert float seconds to Duration: value is negative"
  | .outOfRange => "cannot convert float seconds to Duration: value is either too big or NaN"

namespace Duration

/-- Nanoseconds in a second. -/
def nanosPerSecond : Nat := 1000000000

/-- The first number of seconds that is too great for a duration. -/
def secondsBound : Nat := Word.bound64

/-- No time at all. -/
def zero : Duration := ⟨0⟩

/-- A duration of whole seconds and nanoseconds. -/
def of (seconds nanos : Nat) : Duration := ⟨seconds * nanosPerSecond + nanos⟩

/-- A duration of whole seconds. -/
def ofWholeSeconds (seconds : Nat) : Duration := of seconds 0

/-- The whole seconds of a duration. -/
def wholeSeconds (d : Duration) : Nat := d.nanos / nanosPerSecond

/-- The nanoseconds beyond the whole seconds. -/
def subsecNanos (d : Duration) : Nat := d.nanos % nanosPerSecond

/-- The duration in seconds as a double. -/
def toSeconds (d : Duration) : Float :=
  Float.ofNat d.wholeSeconds + Float.ofNat d.subsecNanos / 1000000000.0

/-- The nanoseconds nearest to `mantissa * 2 ^ exponent` seconds; a half goes to the even one. -/
def nearestNanos (mantissa : Nat) (exponent : Int) : Nat :=
  Binary.divNearest (mantissa * nanosPerSecond * Nat.pow 2 exponent.toNat)
    (Nat.pow 2 (-exponent).toNat)

/-- The duration of a number of seconds. A negative zero is no time at all. -/
def ofSeconds? (x : Float) : Except DurationError Duration :=
  match Binary.view x with
  | .notANumber => .error .outOfRange
  | .infinite negative => .error (if negative then .negative else .outOfRange)
  | .finite negative m e =>
    if negative ∧ m ≠ 0 then .error .negative
    else
      let nanos := nearestNanos m e
      if secondsBound * nanosPerSecond ≤ nanos then .error .outOfRange else .ok ⟨nanos⟩

/-- The duration split evenly over `n` parts, fractions of a nanosecond dropped. -/
def dividedBy (d : Duration) (n : Nat) : Duration := ⟨d.nanos / n⟩

@[simp] theorem nanos_dividedBy (d : Duration) (n : Nat) : (d.dividedBy n).nanos = d.nanos / n := rfl

/-- A duration is made up of its seconds and the rest. -/
theorem of_wholeSeconds_subsecNanos (d : Duration) : of d.wholeSeconds d.subsecNanos = d := by
  cases d with
  | mk n => simp [of, wholeSeconds, subsecNanos, Nat.div_add_mod']

end Duration

end Turnstile
