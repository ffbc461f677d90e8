import Turnstile.Proofs.Checks
import Turnstile.Proofs.Composition

/-!
# Pipelines from settings

Building from settings fails with the first check that fails. If none does, the pipeline is the one that
is written: its groups are those of the settings in their order, with the rules and the policies that
stand there, and its lanes hold what the flags and the sections ask for.

* `GroupSettings.Means`: a group as written and the group that it stands for.
* `Settings.choices`: building from settings is building with the choices that they make.
* `Settings.Compiled`: a pipeline is the one that is written.
* `settings_checked`: building from settings.
-/

namespace Turnstile

/-! ## What is written -/

/-- What a rule as written stands for. -/
inductive RuleSettings.Means (compile : PatternCompiler) : RuleSettings → Rule → Prop
  | exact (name : String) : Means compile ⟨some name, none, none⟩ (.exact name)
  | beginning (text : String) : Means compile ⟨none, some text, none⟩ (.beginning text)
  | pattern {text : String} {m : Matcher} (h : compile text = some m) :
    Means compile ⟨none, none, some text⟩ (.pattern m)

/-- What a policy as written stands for. -/
structure PolicySettings.Means (p : PolicySettings) (q : Policy) : Prop where
  rateLimit : q.rateLimit = p.rateLimit
  timeout : Option.Rel (fun x d => Duration.ofSeconds? x = .ok d) p.timeoutSeconds q.timeout
  authRequired : q.authRequired = p.authRequired

/-- What a group as written stands for. -/
structure GroupSettings.Means (compile : PatternCompiler) (g : GroupSettings) (h : Group) : Prop where
  name : h.name = g.name
  rules : List.Forall₂ (RuleSettings.Means compile) g.rules h.rules
  policy : Option.Rel PolicySettings.Means g.policy h.policy

section

variable {compile : PatternCompiler}

theorem RuleSettings.means_of_toRule {group : String} {r : RuleSettings} {rule : Rule}
    (h : r.toRule compile group = .ok rule) : r.Means compile rule := by
  obtain ⟨full?, beginning?, pattern?⟩ := r
  cases full? with
  | some e =>
    cases beginning? <;> cases pattern? <;> cases h
    exact .exact e
  | none =>
    cases beginning? with
    | some b =>
      cases pattern? <;> cases h
      exact .beginning b
    | none =>
      cases pattern? with
      | none => cases h
      | some p =>
        dsimp only [toRule] at h
        cases hm : compile p with
        | none => rw [hm] at h; cases h
        | some m =>
          rw [hm] at h
          obtain rfl := Except.ok.inj h
          exact .pattern hm

theorem PolicySettings.timeout_rel {group : String} {p : PolicySettings} {timeout : Option Duration}
    (h : p.timeout group = .ok timeout) :
    Option.Rel (fun x d => Duration.ofSeconds? x = .ok d) p.timeoutSeconds timeout := by
  unfold PolicySettings.timeout at h
  cases hx : p.timeoutSeconds with
  | none =>
    rw [hx] at h
    obtain rfl := Except.ok.inj h
    exact .none
  | some x =>
    rw [hx] at h
    dsimp only at h
    cases hd : Duration.ofSeconds? x with
    | error e => rw [hd] at h; cases h
    | ok d =>
      rw [hd] at h
      obtain rfl := Except.ok.inj h
      exact .some hd

theorem GroupSettings.means_of_toGroup {g : GroupSettings} {group : Group}
    (h : g.toGroup compile = .ok group) : g.Means compile group := by
  rw [Settings.toGroup_eq] at h
  cases hr : g.rules.mapM (·.toRule compile g.name) with
  | error e => rw [hr] at h; cases h
  | ok rules =>
    have hrules : List.Forall₂ (RuleSettings.Means compile) g.rules rules :=
      (forall₂_of_mapM hr).imp fun _ _ => RuleSettings.means_of_toRule
    rw [hr] at h
    dsimp only at h
    cases hp : g.policy with
    | none =>
      rw [hp] at h
      obtain rfl := Except.ok.inj h
      exact ⟨rfl, hrules, by rw [hp]; exact .none⟩
    | some p =>
      rw [hp] at h
      dsimp only at h
      cases ht : p.timeout g.name with
      | error e => rw [ht] at h; cases h
      | ok timeout =>
        rw [ht] at h
        obtain rfl := Except.ok.inj h
        exact ⟨rfl, hrules, by rw [hp]; exact .some ⟨rfl, PolicySettings.timeout_rel ht, rfl⟩⟩

/-- A group has the rate limit that is written. -/
theorem GroupSettings.Means.rateLimit_eq {g : GroupSettings} {group : Group} (h : g.Means compile group) :
    group.rateLimit = g.rateLimit := by
  unfold Group.rateLimit GroupSettings.rateLimit
  have hp := h.policy
  generalize g.policy = p at hp
  generalize group.policy = q at hp
  cases hp with
  | none => rfl
  | some h => exact h.rateLimit

namespace Settings

/-- The resolver of settings has the groups that are written, and without groups there is none. -/
theorem groups_of_resolver? {s : Settings} {resolver : Option Resolver}
    (h : s.resolver? compile = .ok resolver) :
    List.Forall₂ (GroupSettings.Means compile) s.groups (RateGate.groupsOf resolver) := by
  unfold resolver? at h
  cases hg : s.groups with
  | nil =>
    rw [hg] at h
    obtain rfl := Except.ok.inj h
    exact .nil
  | cons g gs =>
    rw [hg] at h
    cases hm : (g :: gs).mapM (GroupSettings.toGroup compile) with
    | error e => simp only [hm] at h; cases h
    | ok groups =>
      simp only [hm] at h
      obtain rfl := Except.ok.inj h
      exact (forall₂_of_mapM hm).imp fun _ _ => GroupSettings.means_of_toGroup

/-! ## Limits -/

theorem checked_checkGroups {gs : List GroupSettings} {groups : List Group}
    (h : List.Forall₂ (GroupSettings.Means compile) gs groups) :
    Checked compile (Failure.map .rateLimit)
      (gs.flatMap fun g => g.rateLimit.toList.map (.groupRate g.name))
      (RateGate.checkGroups groups) := by
  induction h with
  | nil => rfl
  | @cons g group gs groups hg _ ih =>
    rw [List.flatMap_cons]
    unfold RateGate.checkGroups
    rw [hg.rateLimit_eq, hg.name]
    cases g.rateLimit with
    | none => exact ih
    | some r =>
      have hlimit : Checked compile (Failure.map fun e => .rateLimit (.inGroup g.name e))
          ([r].map (.groupRate g.name)) (Limiter.ofRateLimit r) := by
        unfold Checked
        rw [List.map_singleton, List.findSome?_singleton]
        rfl
      rw [Option.toList_some]
      refine hlimit.andThen ?_ ?_
      · intro e he
        exact ⟨e.map (.inGroup g.name), by simp only [he], Failure.map_map ..⟩
      · intro l hl
        simp only [hl]
        exact ih

/-- The limits of the groups are checked when a gate is made over them. -/
theorem checked_rateGate {gs : List GroupSettings} {resolver : Option Resolver}
    (h : List.Forall₂ (GroupSettings.Means compile) gs (RateGate.groupsOf resolver)) (global : Limiter) :
    Checked compile (Failure.map .rateLimit)
      (gs.flatMap fun g => g.rateLimit.toList.map (.groupRate g.name))
      (RateGate.of global resolver) := by
  have hgroups := checked_checkGroups h
  unfold RateGate.groupsOf at hgroups
  unfold RateGate.of
  refine hgroups.followed ?_ ?_
  · intro e he
    exact ⟨e, by rw [he], rfl⟩
  · intro _ hok
    exact ⟨⟨global, resolver⟩, by rw [hok]⟩

/-! ## Pipelines from settings -/

section

variable {σ ν ρ : Type}

/-- The choices that settings make, given what their admission and their groups are read as. -/
def choices (s : Settings) (admission : Option Admission) (resolver : Option Resolver) :
    Choices σ ν where
  recovery := s.recovery
  requestId := s.requestId
  admission
  rateLimit := s.rateLimit.map fun r => (r.requestsPerSecond, r.burst)
  resolver
  authenticator := none
  metrics := none
  cache := s.cache.map .inProcess
  stages := if s.span then [.both .span .span] else []

section

open PipelineOption

/-- The options of settings make these choices. -/
theorem choices_of (s : Settings) (admission : Option Admission) (resolver : Option Resolver) :
    Choices.of ((if s.recovery then [.recovery] else [])
      ++ (if s.requestId then [.requestId] else [])
      ++ admission.toList.map .admission
      ++ resolver.toList.map .resolver
      ++ s.rateLimit.toList.map (fun r => .rateLimit r.requestsPerSecond r.burst)
      ++ s.cache.toList.map (fun n => .cache (.inProcess n))
      ++ (if s.span then [.span] else []))
    = (s.choices admission resolver : Choices σ ν) := by
  unfold Choices.of choices
  simp only [last?_append, last?_flag, last?_option, List.any_append, List.any_map,
    List.filterMap_append, List.filterMap_map, Function.comp_def]
  -- what is left is one equation for each choice: the options of the other kinds leave it alone
  congr 1
  case e_recovery => cases s.recovery <;> simp [isRecovery]
  case e_requestId => cases s.requestId <;> simp [isRequestId]
  case e_admission => simp [PipelineOption.admission?]
  case e_rateLimit => cases s.rateLimit <;> simp [rateLimit?]
  case e_resolver => simp [PipelineOption.resolver?]
  case e_authenticator => simp [authenticator?]
  case e_metrics => simp [metrics?]
  case e_cache => cases s.cache <;> simp [cache?]
  case e_stages =>
    cases s.recovery <;> cases s.requestId <;> cases s.span <;> simp [stage?, List.filterMap_cons]

end

/-- Building from settings is reading their admission and their groups, and building with the choices that
they make. -/
theorem build_eq (s : Settings) :
    s.build compile σ ν = match s.admission? with
      | .error e => .error (.reported e)
      | .ok admission => match s.resolver? compile with
        | .error e => .error (.reported e)
        | .ok resolver => match (s.choices admission resolver : Choices σ ν).limits with
          | .error e => .error (e.map .rateLimit)
          | .ok g => .ok ((s.choices admission resolver).pipeline g) := by
  unfold build builder options
  cases s.admission? with
  | error e => rfl
  | ok admission =>
    cases s.resolver? compile with
    | error e => rfl
    | ok r =>
      refine Eq.trans ?_ (Choices.build_builder _)
      rw [← choices_of, ← Choices.applyAll_eq]
      rfl

/-! ## Building -/

/-- The limits that settings ask for are checked last, if all before is good. -/
theorem checked_limits {s : Settings} {resolver : Option Resolver}
    (h : s.resolver? compile = .ok resolver) (admission : Option Admission) :
    Checked compile (Failure.map .rateLimit) s.limitChecks
      (s.choices admission resolver : Choices σ ν).limits := by
  unfold limitChecks choices Choices.limits
  cases s.rateLimit with
  | none => rfl
  | some r =>
    have hglobal : Checked compile (Failure.map .rateLimit) [.globalRate r.requestsPerSecond r.burst]
        (Limiter.ofRate r.requestsPerSecond r.burst) := by
      unfold Checked
      rw [List.findSome?_singleton]
      rfl
    rw [Option.toList_some, List.flatMap_singleton, ← List.singleton_append]
    dsimp only [Option.map_some]
    refine hglobal.andThen ?_ ?_
    · intro e he
      exact ⟨e, by rw [he], rfl⟩
    · intro global hg
      rw [hg]
      refine (checked_rateGate (groups_of_resolver? h) global).followed ?_ ?_
      · intro e he
        exact ⟨e, by simp only [he], rfl⟩
      · intro g hok
        exact ⟨some g, by simp only [hok]⟩

/-- Building fails with the first fault among all the checks. -/
theorem checked_build (s : Settings) : Checked compile id s.checks (s.build compile σ ν) := by
  rw [build_eq, checks, List.append_assoc]
  refine (checked_admission? compile s).andThen ?_ ?_
  · intro e he
    exact ⟨.reported e, by rw [he], rfl⟩
  · intro a ha
    rw [ha]
    refine (checked_resolver? compile s).andThen ?_ ?_
    · intro e he
      exact ⟨.reported e, by simp only [he], rfl⟩
    · intro r hr
      simp only [hr]
      have hlimits : Checked compile (Failure.map .rateLimit) s.limitChecks
          (s.choices a r : Choices σ ν).limits := checked_limits hr a
      refine hlimits.followed ?_ ?_
      · intro e he
        exact ⟨e.map .rateLimit, by rw [he], rfl⟩
      · intro g hg
        exact ⟨(s.choices a r).pipeline g, by rw [hg]⟩

theorem fault?_build (compile : PatternCompiler) (σ ν : Type) (s : Settings) :
    Turnstile.fault? (s.build compile σ ν) = s.checks.findSome? (Check.fault? compile) := by
  have h : Checked compile id s.checks (s.build compile σ ν) := s.checked_build
  unfold Checked at h
  rwa [Option.map_id] at h

theorem build_eq_error_iff {s : Settings} {e : Failure GateError} :
    s.build compile σ ν = .error e ↔ s.checks.findSome? (Check.fault? compile) = some e := by
  rw [← fault?_build compile σ ν]
  cases s.build compile σ ν <;> simp [Turnstile.fault?]

/-- There is a pipeline exactly if no check fails. -/
theorem exists_build_iff {s : Settings} :
    (∃ p, s.build compile σ ν = .ok p) ↔ ∀ c ∈ s.checks, c.fault? compile = none := by
  rw [← List.findSome?_eq_none_iff, ← fault?_build compile σ ν]
  cases s.build compile σ ν <;> simp [Turnstile.fault?]

/-- The gates that settings ask for on a lane, outermost first, with their admission and their limits. -/
def lane (s : Settings) (a : Option Admission) (g : Option RateGate) : List (Gate σ ν ρ) :=
  (if s.recovery then [.recovery none] else [])
    ++ (a.map .admission).toList
    ++ (g.map .rateLimit).toList
    ++ (if s.recovery || s.requestId then [.tagging] else [])
    ++ (if s.span then [.span] else [])

/-- A pipeline is the one that is written: methods resolve over the groups as they are written, and the
lanes hold what the flags and the sections ask for and nothing else. -/
structure Compiled (compile : PatternCompiler) (s : Settings) (p : Pipeline σ ν) : Prop where
  policies : ∃ groups, List.Forall₂ (GroupSettings.Means compile) s.groups groups
    ∧ ∀ method, p.policyFor? method = Resolver.resolve? ⟨groups⟩ method
  admission : Option.Rel (fun c a => Admission.of c = .ok a) s.admission p.admission
  limits : Option.Rel (fun r g => Limiter.ofRate r.requestsPerSecond r.burst = .ok g.global
    ∧ g.resolver = p.resolver) s.rateLimit p.rateGate
  unary : p.unary = s.lane p.admission p.rateGate
  stream : p.stream = s.lane p.admission p.rateGate
  cache : p.cache = s.cache.map .inProcess
  unmetered : p.metrics = none

theorem admission?_rel {s : Settings} {a : Option Admission} (h : s.admission? = .ok a) :
    Option.Rel (fun c a => Admission.of c = .ok a) s.admission a := by
  unfold admission? at h
  cases hc : s.admission with
  | none =>
    rw [hc] at h
    obtain rfl := Except.ok.inj h
    exact .none
  | some c =>
    rw [hc] at h
    dsimp only at h
    cases ha : Admission.of c with
    | error e => rw [ha] at h; cases h
    | ok a' =>
      rw [ha] at h
      obtain rfl := Except.ok.inj h
      exact .some ha

/-- The limits that settings ask for, over the groups of the resolver. -/
theorem limits_rel {s : Settings} {admission : Option Admission} {resolver : Option Resolver}
    {g : Option RateGate} (h : (s.choices admission resolver : Choices σ ν).limits = .ok g) :
    Option.Rel (fun r g => Limiter.ofRate r.requestsPerSecond r.burst = .ok g.global
      ∧ g.resolver = resolver) s.rateLimit g := by
  unfold choices Choices.limits at h
  cases hr : s.rateLimit with
  | none =>
    rw [hr] at h
    obtain rfl := Except.ok.inj h
    exact .none
  | some r =>
    rw [hr] at h
    dsimp only [Option.map_some] at h
    cases hl : Limiter.ofRate r.requestsPerSecond r.burst with
    | error e => rw [hl] at h; cases h
    | ok global =>
      rw [hl] at h
      dsimp only at h
      cases hg : RateGate.of global resolver with
      | error e => rw [hg] at h; cases h
      | ok gate =>
        rw [hg] at h
        obtain rfl := Except.ok.inj h
        obtain ⟨rfl, -⟩ := RateGate.of_eq_ok hg
        exact .some ⟨hl, rfl⟩

/-- A method resolves over the groups of a resolver, and to nothing where there is none. -/
theorem resolve?_groupsOf (resolver : Option Resolver) (method : String) :
    resolver.bind (·.resolve? method) = Resolver.resolve? ⟨RateGate.groupsOf resolver⟩ method := by
  cases resolver <;> rfl

theorem pipeline_unary (s : Settings) (a : Option Admission) (r : Option Resolver)
    (g : Option RateGate) : ((s.choices a r : Choices σ ν).pipeline g).unary = s.lane a g := by
  unfold Choices.pipeline Choices.gates Choices.unaryStages choices lane
  cases s.span <;> simp [Stage.onUnary?]

theorem pipeline_stream (s : Settings) (a : Option Admission) (r : Option Resolver)
    (g : Option RateGate) : ((s.choices a r : Choices σ ν).pipeline g).stream = s.lane a g := by
  unfold Choices.pipeline Choices.gates Choices.streamStages choices lane
  cases s.span <;> simp [Stage.onStream?]

/-- What is built is what is written. -/
theorem compiled_of_build {s : Settings} {p : Pipeline σ ν} (h : s.build compile σ ν = .ok p) :
    s.Compiled compile p := by
  rw [build_eq] at h
  -- a pipeline comes of it only if admission, groups and limits are all good
  cases ha : s.admission? with
  | error e => rw [ha] at h; cases h
  | ok a =>
    cases hr : s.resolver? compile with
    | error e => rw [ha, hr] at h; cases h
    | ok r =>
      cases hg : (s.choices a r : Choices σ ν).limits with
      | error e => simp only [ha, hr, hg] at h; cases h
      | ok g =>
        simp only [ha, hr, hg] at h
        obtain rfl := Except.ok.inj h
        exact
          { policies := ⟨RateGate.groupsOf r, groups_of_resolver? hr, resolve?_groupsOf r⟩
            admission := admission?_rel ha
            limits := limits_rel hg
            unary := pipeline_unary s a r g
            stream := pipeline_stream s a r g
            cache := rfl
            unmetered := rfl }

/-- The reason for refusing the rate limit of a group is told with the name of the group. -/
theorem Check.message_of_groupRate {group : String} {r : RateLimit} {e : GateError}
    (h : (Check.groupRate group r).fault? compile = some (.reported e)) :
    ∃ reason, Limiter.ofRateLimit r = .error (.reported reason)
      ∧ e.message = "rate limit: group " ++ Text.quoted group ++ ": " ++ reason.message := by
  dsimp only [Check.fault?] at h
  cases hl : Limiter.ofRateLimit r with
  | ok l => rw [hl] at h; cases h
  | error failure =>
    rw [hl] at h
    cases failure with
    | breakdown => cases h
    | reported reason =>
      have he : GateError.rateLimit (.inGroup group reason) = e := by
        simpa only [Turnstile.fault?, Failure.map, Option.map_some, Option.some.injEq,
          Failure.reported.injEq] using h
      refine ⟨reason, rfl, ?_⟩
      rw [← he]
      dsimp only [GateError.message, LimitError.message]
      have hfront : "rate limit: group " = "rate limit: " ++ "group " := by decide
      rw [hfront, ← String.append_assoc, ← String.append_assoc, ← String.append_assoc]

end

end Settings

end

section

open Settings

/-- **Building from settings**, with any compiler of patterns.

* There is no pipeline exactly if some check fails, and then the error is that of the first that does.
* If no check fails there is a pipeline, and it is the one that is written.
* A group's rate limit is refused with the name of the group. -/
theorem settings_checked (compile : PatternCompiler) (σ ν : Type) (s : Settings) :
    (∀ e, s.build compile σ ν = .error e ↔ ∃ before check after, s.checks = before ++ check :: after
        ∧ check.fault? compile = some e ∧ ∀ c ∈ before, c.fault? compile = none)
    ∧ ((∀ c ∈ s.checks, c.fault? compile = none) →
        ∃ p, s.build compile σ ν = .ok p ∧ s.Compiled compile p)
    ∧ ∀ group r e, (Check.groupRate group r).fault? compile = some (.reported e) →
        ∃ reason, Limiter.ofRateLimit r = .error (.reported reason)
          ∧ e.message = "rate limit: group " ++ Text.quoted group ++ ": " ++ reason.message := by
  refine ⟨?_, ?_, fun _ _ _ => Check.message_of_groupRate⟩
  · intro e
    rw [build_eq_error_iff, List.findSome?_eq_some_iff]
  · intro h
    obtain ⟨p, hp⟩ := exists_build_iff.mpr h
    exact ⟨p, hp, compiled_of_build hp⟩

/-- Settings with something of everything in them are good, where a pattern is good if it is a word.
With a bad timeout and the rate of another group at nought, it is the timeout that is told, although the
group with the rate comes first. With an unclosed bracket in the first group it is the pattern that is
told. -/
theorem settings_checked_with_mistakes :
    let compile : PatternCompiler := fun text =>
      if text.toList.all Char.isAlpha then
        some ⟨text, fun method =>
          if method.toList.tails.any text.toList.isPrefixOf then some text.utf8ByteSize else none⟩
      else none
    let admission : AdmissionConfig :=
      { mode := .denyList, cidrs := ["10.0.0.0/8"], trustedProxies := [" ::1 "] }
    let group (pattern : String) (rate : Nat) (timeout : Float) : GroupSettings :=
      { name := "g"
        rules := [⟨some "/a.A/B", none, none⟩, ⟨none, some "/admin.", none⟩, ⟨none, none, some pattern⟩]
        policy := some { rateLimit := some (.perMinute rate), timeoutSeconds := some timeout } }
    let good : Settings :=
      { span := true, admission, rateLimit := some ⟨2.5, 3⟩
        groups := [group "Get" 2 1.5, group "Set" 3 0.5] }
    let late : Settings := { good with groups := [group "Get" 0 1.5, group "Set" 3 (-1.0)] }
    let early : Settings := { good with groups := [group "G[et" 0 1.5, group "Set" 3 (-1.0)] }
    (∃ p, good.build compile Unit Unit = .ok p ∧ good.Compiled compile p)
      ∧ late.build compile Unit Unit = .error (.reported (.config
          ("group \"g\": invalid timeout: " ++ DurationError.negative.message)))
      ∧ early.build compile Unit Unit = .error (.reported (.invalidPattern "G[et")) := by
  intro compile admission group good late early
  refine ⟨(settings_checked compile Unit Unit good).2.1 (by decide +kernel), ?_, ?_⟩
  · exact ((settings_checked compile Unit Unit late).1 _).mpr
      ⟨late.checks.take 9, .timeout "g" (-1.0), late.checks.drop 10, rfl, by decide +kernel,
        by decide +kernel⟩
  · exact ((settings_checked compile Unit Unit early).1 _).mpr
      ⟨early.checks.take 4, .rule "g" ⟨none, none, some "G[et"⟩, early.checks.drop 5, rfl,
        by decide +kernel, by decide +kernel⟩

end

end Turnstile
