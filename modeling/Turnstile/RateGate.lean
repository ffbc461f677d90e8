import Turnstile.Limiter
import Turnstile.Resolver

/-!
# The rate gate

Methods whose group carries a rate limit draw from the bucket of that group, all others from the global
bucket. Buckets of groups are kept under the group's name and opened when they are first drawn from.

* `RateGate.of`: the gate over a resolver; every rate limit of a group is checked here.
* `RateGate.charge`: one request, which may open a bucket.
-/

namespace Turnstile

/-- The limits of a gate: the global one, and the groups with limits of their own. -/
structure RateGate where
  global : Limiter
  resolver : Option Resolver

/-- The buckets of a gate. -/
structure Buckets where
  global : Bucket
  groups : List (String × Bucket) := []

/-- What became of a request at the gate: whether it was admitted, the group of its method, and the
bucket that was opened for it. -/
structure Verdict where
  allowed : Bool
  group : Option String
  opened : Option (String × Limiter) := none

namespace RateGate

/-- The first group whose rate limit has no limiter, and why. -/
def checkGroups : List Group → Except (Failure LimitError) Unit
  | [] => .ok ()
  | g :: gs =>
    match g.rateLimit with
    | none => checkGroups gs
    | some r =>
      match Limiter.ofRateLimit r with
      | .ok _ => checkGroups gs
      | .error e => .error (e.map (.inGroup g.name))

/-- The gate over a resolver, if every rate limit in it is good. -/
def of (global : Limiter) (resolver : Option Resolver) : Except (Failure LimitError) RateGate :=
  match checkGroups ((resolver.map Resolver.groups).getD []) with
  | .ok () => .ok ⟨global, resolver⟩
  | .error e => .error e

/-- The buckets of a gate that was just built. -/
def fresh (g : RateGate) (now : Nat) : Buckets := ⟨.fresh g.global now, []⟩

/-- The group of a method. -/
def group? (g : RateGate) (method : String) : Option Group := g.resolver.bind (·.group? method)

end RateGate

namespace Buckets

/-- The bucket under a name. -/
def find? (b : Buckets) (name : String) : Option Bucket := b.groups.lookup name

/-- Puts a bucket under a name in place of the one that was there. -/
def put (name : String) (bucket : Bucket) : List (String × Bucket) → List (String × Bucket)
  | [] => [(name, bucket)]
  | (n, b) :: rest => if n = name then (n, bucket) :: rest else (n, b) :: put name bucket rest

/-- Draws from the global bucket. -/
def takeGlobal (b : Buckets) (now : Nat) : Bool × Buckets :=
  let (allowed, bucket) := b.global.take now
  (allowed, { b with global := bucket })

/-- Draws from the given bucket and keeps it under a name. -/
def takeFrom (b : Buckets) (name : String) (bucket : Bucket) (now : Nat) : Bool × Buckets :=
  let (allowed, bucket) := bucket.take now
  (allowed, { b with groups := put name bucket b.groups })

end Buckets

namespace RateGate

/-- One request. A group's bucket is opened at its first request; without a good limiter for it the
request would draw from the global bucket. -/
def charge (g : RateGate) (now : Nat) (method : String) (b : Buckets) : Verdict × Buckets :=
  match g.group? method with
  | none =>
    let (allowed, b) := b.takeGlobal now
    ({ allowed, group := none }, b)
  | some group =>
    let fromGlobal : Verdict × Buckets :=
      let (allowed, b) := b.takeGlobal now
      ({ allowed, group := some group.name }, b)
    match group.rateLimit with
    | none => fromGlobal
    | some limit =>
      match b.find? group.name with
      | some bucket =>
        let (allowed, b) := b.takeFrom group.name bucket now
        ({ allowed, group := some group.name }, b)
      | none =>
        match Limiter.ofRateLimit limit with
        | .error _ => fromGlobal
        | .ok limiter =>
          let (allowed, b) := b.takeFrom group.name (.fresh limiter now) now
          ({ allowed, group := some group.name, opened := some (group.name, limiter) }, b)

end RateGate

end Turnstile
