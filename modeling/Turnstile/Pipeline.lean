import Turnstile.Gate

/-!
# Building pipelines

Options may be given in any order and repeatedly; a later value takes the place of an earlier one,
except that every span and every stage of the user's is kept. The built-in gates are registered when the
pipeline is built, with priorities that put them outside the user's stages.

* `PipelineOption`, `Builder`: the options and what they come to.
* `Builder.build`: the pipeline, or why there is none.
* `Pipeline.start`: the state in which a pipeline begins to run.
-/

namespace Turnstile

/-- Why a pipeline or a part of it could not be made. -/
inductive GateError where
  | admission (e : AdmissionError)
  | invalidPattern (pattern : String)
  | rateLimit (e : LimitError)
  | config (reason : String)
  deriving DecidableEq, Repr

/-- The wording of an error, where it does not repeat what another library says. -/
def GateError.message : GateError → String
  | .admission (.cidr value reason) =>
    "ipblock: invalid CIDR " ++ Text.quoted value ++ ": " ++ reason.message
  | .admission (.trustedProxy value reason) =>
    "ipblock: invalid trusted proxy " ++ Text.quoted value ++ ": " ++ reason.message
  | .invalidPattern pattern => "policy: invalid pattern " ++ Text.quoted pattern
  | .rateLimit e => "rate limit: " ++ e.message
  | .config reason => "Configuration error: " ++ reason

/-! ## Priorities -/

/-- The priorities of the stages; lower ones are further out. -/
def Gate.priority {σ ν ρ : Type} : Gate σ ν ρ → Int
  | .recovery _ => 10
  | .admission _ => 20
  | .rateLimit _ => 25
  | .authentication _ => 28
  | .tagging => 30
  | .span => 100
  | .user _ => 100

/-- A stage of the user's on its lanes. -/
abbrev UserEntry (σ ν : Type) := Stage (UserStage σ ν (Reply Payload)) (UserStage σ ν Unit)

/-- A stage of a pipeline on its lanes. -/
abbrev PipelineStage (σ ν : Type) := Stage (Gate σ ν (Reply Payload)) (Gate σ ν Unit)

/-- The stage of the pipeline that a user's stage becomes. -/
def UserEntry.toStage {σ ν : Type} : UserEntry σ ν → PipelineStage σ ν
  | .unary u => .unary (.user u)
  | .streaming t => .streaming (.user t)
  | .both u t => .both (.user u) (.user t)

/-! ## Options -/

/-- A cache that a pipeline can be asked for: one of the pipeline's own, for so many entries, or one
that the user brings. Those are told apart by number. -/
inductive CacheChoice where
  | inProcess (maxEntries : Nat)
  | brought (number : Nat)
  deriving DecidableEq, Repr

/-- The options of a pipeline. -/
inductive PipelineOption (σ ν : Type) where
  | recovery
  | requestId
  | admission (a : Admission)
  | rateLimit (requestsPerSecond : Float) (burst : Nat)
  | resolver (r : Resolver)
  | authentication (a : Authenticator σ ν)
  | metrics (collector : Collector)
  | cache (cache : CacheChoice)
  | span
  | user (stage : UserEntry σ ν)

/-- What the options given so far come to. -/
structure Builder (σ ν : Type) where
  registry : Registry (Gate σ ν (Reply Payload)) (Gate σ ν Unit) := {}
  recovery : Bool := false
  requestId : Bool := false
  admission : Option Admission := none
  rateLimit : Option (Float × Nat) := none
  resolver : Option Resolver := none
  authenticator : Option (Authenticator σ ν) := none
  metrics : Option Collector := none
  cache : Option CacheChoice := none

namespace Builder

variable {σ ν : Type}

/-- Takes one more option. Recovery brings request identifiers with it. -/
def apply (b : Builder σ ν) : PipelineOption σ ν → Builder σ ν
  | .recovery => { b with recovery := true, requestId := true }
  | .requestId => { b with requestId := true }
  | .admission a => { b with admission := some a }
  | .rateLimit rps burst => { b with rateLimit := some (rps, burst) }
  | .resolver r => { b with resolver := some r }
  | .authentication a => { b with authenticator := some a }
  | .metrics c => { b with metrics := some c }
  | .cache c => { b with cache := some c }
  | .span => { b with registry := b.registry.add 100 (.both .span .span) }
  | .user s => { b with registry := b.registry.add 100 s.toStage }

/-- Takes options in their order. -/
def applyAll (b : Builder σ ν) (os : List (PipelineOption σ ν)) : Builder σ ν := os.foldl apply b

/-- The recommended baseline: recovery and request identifiers. -/
def recommended : Builder σ ν := ({} : Builder σ ν).apply .recovery

end Builder

/-! ## Pipelines -/

/-- A pipeline: its lanes, and what its parts can be asked for. -/
structure Pipeline (σ ν : Type) where
  unary : List (Gate σ ν (Reply Payload))
  stream : List (Gate σ ν Unit)
  registered : Nat
  resolver : Option Resolver
  admission : Option Admission
  rateGate : Option RateGate
  metrics : Option Collector
  cache : Option CacheChoice

namespace Builder

variable {σ ν : Type}

/-- The rate gate that the options ask for. -/
def rateGate? (b : Builder σ ν) : Except (Failure LimitError) (Option RateGate) :=
  match b.rateLimit with
  | none => .ok none
  | some (rps, burst) =>
    match Limiter.ofRate rps burst with
    | .error e => .error e
    | .ok global => (RateGate.of global b.resolver).map some

/-- Registers one gate on both lanes. -/
def withGate (r : Registry (Gate σ ν (Reply Payload)) (Gate σ ν Unit)) (priority : Int)
    (unary : Gate σ ν (Reply Payload)) (stream : Gate σ ν Unit) :
    Registry (Gate σ ν (Reply Payload)) (Gate σ ν Unit) :=
  r.add priority (.both unary stream)

/-- The user's stages and spans, and after them the gates that the options ask for. -/
def fullRegistry (b : Builder σ ν) (rateGate : Option RateGate) :
    Registry (Gate σ ν (Reply Payload)) (Gate σ ν Unit) :=
  let r := b.registry
  let r := if b.recovery then withGate r 10 (.recovery b.metrics) (.recovery b.metrics) else r
  let r := match b.admission with
    | some a => withGate r 20 (.admission a) (.admission a)
    | none => r
  let r := match rateGate with
    | some g => withGate r 25 (.rateLimit g) (.rateLimit g)
    | none => r
  let r := match b.authenticator with
    | some a => withGate r 28 (.authentication a) (.authentication a)
    | none => r
  if b.requestId then withGate r 30 .tagging .tagging else r

/-- Builds the pipeline. -/
def build (b : Builder σ ν) : Except (Failure GateError) (Pipeline σ ν) :=
  match b.rateGate? with
  | .error e => .error (e.map .rateLimit)
  | .ok rateGate =>
    let r := b.fullRegistry rateGate
    .ok
      { unary := r.unaryLane
        stream := r.streamLane
        registered := r.entries.length
        resolver := b.resolver
        admission := b.admission
        rateGate
        metrics := b.metrics
        cache := b.cache }

end Builder

namespace Pipeline

variable {σ ν : Type}

/-- The state in which a pipeline begins to run, just after it has been built. -/
def start (p : Pipeline σ ν) (user : σ) (minted : Mint := {}) : State σ ν :=
  let st : State σ ν := { buckets := p.rateGate.map (·.fresh 0), minted, user }
  st.report (.composed p.registered p.unary.length p.stream.length)

/-- The name and the policy of a method's group. -/
def policyFor? (p : Pipeline σ ν) (method : String) : Option (String × Option Policy) :=
  p.resolver.bind (·.resolve? method)

/-- The text of a flag. -/
def flagText (b : Bool) : String := if b then "true" else "false"

/-- The description of a pipeline. -/
def describe (p : Pipeline σ ν) : String :=
  "Gatehouse \x7b unary_stages: " ++ toString p.unary.length
    ++ ", stream_stages: " ++ toString p.stream.length
    ++ ", resolver: " ++ flagText p.resolver.isSome
    ++ ", ip_blocker: " ++ flagText p.admission.isSome
    ++ ", metrics: " ++ flagText p.metrics.isSome
    ++ ", cache: " ++ flagText p.cache.isSome ++ " \x7d"

end Pipeline

end Turnstile
