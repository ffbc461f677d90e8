import Turnstile.Pipeline

/-!
# Settings

The part of a pipeline that can be written down: flags, admission by address, a global rate limit, groups
with their rules and policies, and a cache. Stages of the user's own and authentication are code and are
added to the builder afterwards. The patterns in the rules are compiled by a compiler that is given.

* `Settings`: what can be written, with what holds where nothing is.
* `Settings.builder`: the options that the settings stand for, or the first thing wrong with them.
-/

namespace Turnstile

/-- A rule as written. One of the three is to be given. -/
structure RuleSettings where
  exact : Option String := none
  beginning : Option String := none
  pattern : Option String := none
  deriving DecidableEq, Repr

/-- A policy as written. -/
structure PolicySettings where
  rateLimit : Option RateLimit := none
  timeoutSeconds : Option Float := none
  authRequired : Bool := false

/-- A group as written. -/
structure GroupSettings where
  name : String
  rules : List RuleSettings := []
  policy : Option PolicySettings := none

/-- A global rate limit as written. -/
structure RateLimitSettings where
  requestsPerSecond : Float
  burst : Nat

/-- The settings of a pipeline. -/
structure Settings where
  recovery : Bool := true
  requestId : Bool := false
  span : Bool := false
  admission : Option AdmissionConfig := none
  rateLimit : Option RateLimitSettings := none
  groups : List GroupSettings := []
  /-- The most entries that the cache holds, if there is one. -/
  cache : Option Nat := none

/-! ## Reading what was written -/

/-- The rule that was written in a group. -/
def RuleSettings.toRule (compile : PatternCompiler) (r : RuleSettings) (group : String) :
    Except GateError Rule :=
  match r.exact, r.beginning, r.pattern with
  | some s, none, none => .ok (.exact s)
  | none, some s, none => .ok (.beginning s)
  | none, none, some s =>
    match compile s with
    | some m => .ok (.pattern m)
    | none => .error (.invalidPattern s)
  | _, _, _ =>
    .error (.config ("group " ++ Text.quoted group
      ++ ": each rule needs exactly one of exact, prefix or pattern"))

/-- The timeout that was written in a group. -/
def PolicySettings.timeout (p : PolicySettings) (group : String) :
    Except GateError (Option Duration) :=
  match p.timeoutSeconds with
  | none => .ok none
  | some x =>
    match Duration.ofSeconds? x with
    | .ok d => .ok (some d)
    | .error e =>
      .error (.config ("group " ++ Text.quoted group ++ ": invalid timeout: " ++ e.message))

/-- The policy that was written in a group. -/
def PolicySettings.toPolicy (p : PolicySettings) (group : String) : Except GateError Policy := do
  return { rateLimit := p.rateLimit, timeout := ← p.timeout group, authRequired := p.authRequired }

/-- The group that was written: its rules are read first, then its policy. -/
def GroupSettings.toGroup (compile : PatternCompiler) (g : GroupSettings) : Except GateError Group := do
  let rules ← g.rules.mapM (·.toRule compile g.name)
  let policy ← match g.policy with
    | none => .ok none
    | some p => some <$> p.toPolicy g.name
  return { name := g.name, rules, policy }

namespace Settings

/-- Whether the settings are those that hold where nothing is written. -/
def isDefault (s : Settings) : Bool :=
  s.recovery && !s.requestId && !s.span && s.admission.isNone && s.rateLimit.isNone
    && s.groups.isEmpty && s.cache.isNone

/-- The admission that was written. -/
def admission? (s : Settings) : Except GateError (Option Admission) :=
  match s.admission with
  | none => .ok none
  | some c => ((Admission.of c).mapError .admission).map some

/-- The resolver over the groups that were written; none without groups. -/
def resolver? (compile : PatternCompiler) (s : Settings) : Except GateError (Option Resolver) :=
  if s.groups.isEmpty then .ok none
  else return some ⟨← s.groups.mapM (GroupSettings.toGroup compile)⟩

/-- The options that the settings stand for. -/
def options (compile : PatternCompiler) (σ ν : Type) (s : Settings) :
    Except GateError (List (PipelineOption σ ν)) := do
  let admission ← s.admission?
  let resolver ← s.resolver? compile
  return (if s.recovery then [.recovery] else [])
    ++ (if s.requestId then [.requestId] else [])
    ++ admission.toList.map .admission
    ++ resolver.toList.map .resolver
    ++ s.rateLimit.toList.map (fun r => .rateLimit r.requestsPerSecond r.burst)
    ++ s.cache.toList.map (fun n => .cache (.inProcess n))
    ++ (if s.span then [.span] else [])

/-- The builder of the pipeline that was written. -/
def builder (compile : PatternCompiler) (σ ν : Type) (s : Settings) : Except GateError (Builder σ ν) :=
  (s.options compile σ ν).map ({} : Builder σ ν).applyAll

/-- The pipeline that was written, or why there is none. -/
def build (compile : PatternCompiler) (σ ν : Type) (s : Settings) :
    Except (Failure GateError) (Pipeline σ ν) :=
  match s.builder compile σ ν with
  | .error e => .error (.reported e)
  | .ok b => b.build

end Settings

end Turnstile
