import Turnstile.Duration
import Turnstile.Rule

/-!
# Policies

What holds for a group of methods: a rate limit of its own, a timeout that handlers may apply, and
whether callers must be authenticated.
-/

namespace Turnstile

/-- So many requests per window; the number is the burst as well. -/
structure RateLimit where
  rate : Nat
  window : Duration
  deriving DecidableEq, Repr

namespace RateLimit

/-- So many requests per second. -/
def perSecond (rate : Nat) : RateLimit := ⟨rate, .ofWholeSeconds 1⟩

/-- So many requests per minute. -/
def perMinute (rate : Nat) : RateLimit := ⟨rate, .ofWholeSeconds 60⟩

/-- The sustained rate; none for an empty window. -/
def requestsPerSecond (r : RateLimit) : Float :=
  if r.window.nanos = 0 then 0.0 else Float.ofNat r.rate / r.window.toSeconds

end RateLimit

/-- What holds for a group of methods. -/
structure Policy where
  rateLimit : Option RateLimit := none
  timeout : Option Duration := none
  authRequired : Bool := false
  deriving DecidableEq, Repr

/-- Methods that share a policy, picked out by rules. -/
structure Group where
  name : String
  rules : List Rule := []
  policy : Option Policy := none

/-- The rate limit of a group, if its policy has one. -/
def Group.rateLimit (g : Group) : Option RateLimit := g.policy.bind Policy.rateLimit

end Turnstile
