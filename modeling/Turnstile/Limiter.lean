import Turnstile.Decimal.Notation
import Turnstile.Policy
import Turnstile.Text.Quoted
import Turnstile.Word

/-!
# Limiters and their buckets

A limiter admits a sustained rate with bursts. It is given by the period in which one token comes back
and by the number of tokens in a full bucket, and can be made from a rate or from a group's rate limit.

A bucket is a limiter in use. It remembers the theoretical arrival time of the next request: a request
is admitted unless it comes more than a full bucket ahead of that time, and each admission moves the
time on by one period. The clock of a bucket starts when the bucket is opened.

* `Limiter.ofRate`, `Limiter.ofRateLimit`: the limiters there are, and why others are refused.
* `Bucket.take`: one request.
-/

namespace Turnstile

/-- Why something could not be made: for a reported reason, or because making it broke down. -/
inductive Failure (ε : Type) where
  | reported (reason : ε)
  | breakdown
  deriving DecidableEq, Repr

/-- Puts another reason in place of a reported one. -/
def Failure.map {ε ε' : Type} (f : ε → ε') : Failure ε → Failure ε'
  | .reported e => .reported (f e)
  | .breakdown => .breakdown

/-- Why there is no limiter. -/
inductive LimitError where
  | notPositive (rate : String)
  | period (e : DurationError)
  | zeroRate
  | zeroBurst
  | zeroPeriod
  | inGroup (name : String) (e : LimitError)
  deriving DecidableEq, Repr

/-- The wording of a limit error. -/
def LimitError.message : LimitError → String
  | .notPositive rate => "rate must be a positive number of requests per second, got " ++ rate
  | .period e => e.message
  | .zeroRate => "rate must be at least 1"
  | .zeroBurst => "burst must be at least 1"
  | .zeroPeriod => "replenish period 0ns is too small"
  | .inGroup name e => "group " ++ Text.quoted name ++ ": " ++ e.message

/-- A limiter. A token comes back in every `period` nanoseconds, a full bucket holds `burst` tokens,
and the time in which a bucket fills is a 64-bit number of nanoseconds. -/
structure Limiter where
  requestsPerSecond : Float
  burst : Nat
  period : Nat
  burst_pos : 0 < burst
  period_pos : 0 < period
  span_lt : period * burst < Word.bound64

namespace Limiter

/-- The nanoseconds in which an empty bucket fills. -/
def span (l : Limiter) : Nat := l.period * l.burst

theorem period_le_span (l : Limiter) : l.period ≤ l.span := Nat.le_mul_of_pos_right _ l.burst_pos

theorem span_add_period (l : Limiter) : l.span + l.period = (l.burst + 1) * l.period := by
  rw [Nat.succ_mul, span, Nat.mul_comm]

/-- The limiter with a given period. One that takes too long to fill a bucket breaks down. -/
def ofPeriod (period : Duration) (burst : Nat) (requestsPerSecond : Float) :
    Except (Failure LimitError) Limiter :=
  if hb : 0 < burst then
    if hp : 0 < period.nanos then
      if hs : period.nanos * burst < Word.bound64 then
        .ok ⟨requestsPerSecond, burst, period.nanos, hb, hp, hs⟩
      else .error .breakdown
    else .error (.reported .zeroPeriod)
  else .error (.reported .zeroBurst)

/-- Whether a number is a positive, finite rate. -/
def isRate (x : Float) : Bool :=
  match Binary.view x with
  | .finite negative m _ => !negative && m != 0
  | _ => false

/-- The limiter that admits a number of requests per second on average. -/
def ofRate (requestsPerSecond : Float) (burst : Nat) : Except (Failure LimitError) Limiter :=
  if isRate requestsPerSecond then
    match Duration.ofSeconds? (1.0 / requestsPerSecond) with
    | .ok period => ofPeriod period burst requestsPerSecond
    | .error e => .error (.reported (.period e))
  else .error (.reported (.notPositive (Decimal.plain requestsPerSecond)))

/-- The limiter of a rate limit: the window is shared out evenly among the requests. -/
def ofRateLimit (r : RateLimit) : Except (Failure LimitError) Limiter :=
  if r.rate = 0 then .error (.reported .zeroRate)
  else ofPeriod (r.window.dividedBy r.rate) r.rate r.requestsPerSecond

/-- The period and the burst of a limiter that was made with a given period. -/
theorem terms_ofPeriod {period : Duration} {burst : Nat} {rps : Float} {l : Limiter}
    (h : ofPeriod period burst rps = .ok l) : l.period = period.nanos ∧ l.burst = burst := by
  unfold ofPeriod at h
  split at h
  · split at h
    · split at h
      · cases h
        exact ⟨rfl, rfl⟩
      · cases h
    · cases h
  · cases h

/-- The limiter of a rate limit has the limit's terms. -/
theorem terms_ofRateLimit {r : RateLimit} {l : Limiter} (h : ofRateLimit r = .ok l) :
    l.period = r.window.nanos / r.rate ∧ l.burst = r.rate := by
  unfold ofRateLimit at h
  split at h
  · cases h
  · exact terms_ofPeriod h

/-- The period of the limiter of a rate is the time that one request takes at that rate. -/
theorem terms_ofRate {rps : Float} {burst : Nat} {l : Limiter} (h : ofRate rps burst = .ok l) :
    ∃ period, Duration.ofSeconds? (1.0 / rps) = .ok period
      ∧ l.period = period.nanos ∧ l.burst = burst := by
  unfold ofRate at h
  split at h
  · split at h
    · exact ⟨_, ‹_›, terms_ofPeriod h⟩
    · cases h
  · cases h

/-- The description of a limiter. -/
def describe (l : Limiter) : String :=
  "Limiter \x7b requests_per_second: " ++ Decimal.marked l.requestsPerSecond ++ ", burst: "
    ++ toString l.burst ++ " \x7d"

end Limiter

/-- A limiter in use: when it was opened, and the theoretical arrival time of the next request,
counted from there, once there has been a request. -/
structure Bucket where
  limiter : Limiter
  opened : Nat
  arrival : Option Nat := none

namespace Bucket

/-- A full bucket. -/
def fresh (l : Limiter) (now : Nat) : Bucket := ⟨l, now, none⟩

/-- The arrival time that a request at instant `t` of the bucket's clock is held against. -/
def expected (b : Bucket) (t : Nat) : Nat := b.arrival.getD (t + b.limiter.period)

/-- Takes a token at an instant of the clock, if there is one. -/
def take (b : Bucket) (now : Nat) : Bool × Bucket :=
  let t := now - b.opened
  if t < b.expected t - b.limiter.span then (false, b)
  else (true, { b with arrival := some (max (b.expected t) t + b.limiter.period) })

/-- Takes a number of tokens at one instant: which of the takes were admitted. -/
def takes (now : Nat) : Nat → Bucket → List Bool × Bucket
  | 0, b => ([], b)
  | n + 1, b =>
    let (admitted, b) := b.take now
    let (rest, b) := takes now n b
    (admitted :: rest, b)

end Bucket

end Turnstile
