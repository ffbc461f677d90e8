import Turnstile.Settings
import Turnstile.Proofs.Charge

/-!
# Checking settings

Whether a pipeline can be built from settings is decided by many small checks: each network has to be one,
each rule has to have one matcher, each limit has to be good. They are spread over the readers of the
parts, which stop at what they find wrong. Here they are written down in one list, in the order in which
someone would read the settings, and each reader is seen to fail with the first of its checks that fails.
Whether a pattern is good is up to the compiler of patterns, which may be any.

* `Settings.Check`, `Settings.checks`: the checks, and their order.
* `Settings.Checked`: a computation fails with the first fault of a list of checks; `Checked.andThen`, one
  computation after another.
* `checked_admission?`, `checked_resolver?`: the readers of admission and of the groups.
-/

namespace Turnstile

/-! ## Computations that may fail -/

section

variable {ε α β : Type}

/-- The error with which something failed. -/
def fault? : Except ε α → Option ε
  | .ok _ => none
  | .error e => some e

theorem mapM_cons_eq (f : α → Except ε β) (a : α) (as : List α) :
    (a :: as).mapM f = match f a with
      | .error e => .error e
      | .ok b => match as.mapM f with
        | .error e => .error e
        | .ok bs => .ok (b :: bs) := by
  rw [List.mapM_cons]
  cases f a with
  | error e => rfl
  | ok b => cases as.mapM f <;> rfl

/-- What is made of a list is made of its members one by one. -/
theorem forall₂_of_mapM {f : α → Except ε β} {as : List α} {bs : List β} (h : as.mapM f = .ok bs) :
    List.Forall₂ (fun a b => f a = .ok b) as bs := by
  induction as generalizing bs with
  | nil =>
    obtain rfl := Except.ok.inj h
    exact .nil
  | cons a as ih =>
    rw [mapM_cons_eq] at h
    cases ha : f a with
    | error e => rw [ha] at h; cases h
    | ok b =>
      cases has : as.mapM f with
      | error e => rw [ha, has] at h; cases h
      | ok bs' =>
        rw [ha, has] at h
        obtain rfl := Except.ok.inj h
        exact .cons ha (ih has)

theorem Failure.map_map {ε' ε'' : Type} (f : ε → ε') (g : ε' → ε'') (e : Failure ε) :
    (e.map f).map g = e.map fun x => g (f x) := by
  cases e <;> rfl

end

/-! ## The checks -/

/-- How many matchers of a rule are given. -/
def RuleSettings.given (r : RuleSettings) : Nat :=
  (r.exact.toList ++ r.beginning.toList ++ r.pattern.toList).length

/-- What is wrong with a rule of a group: it has not exactly one matcher, or a pattern that is no good. -/
def RuleSettings.mistake? (compile : PatternCompiler) (group : String) (r : RuleSettings) :
    Option GateError :=
  if r.given = 1 then
    r.pattern.bind fun p => if (compile p).isSome then none else some (.invalidPattern p)
  else
    some (.config ("group " ++ Text.quoted group
      ++ ": each rule needs exactly one of exact, prefix or pattern"))

/-- The rate limit that is written in a group. -/
def GroupSettings.rateLimit (g : GroupSettings) : Option RateLimit :=
  g.policy.bind PolicySettings.rateLimit

/-- The timeout that is written in a group. -/
def GroupSettings.timeoutSeconds (g : GroupSettings) : Option Float :=
  g.policy.bind PolicySettings.timeoutSeconds

namespace Settings

/-- A check of something that is written in settings. -/
inductive Check where
  | cidr (entry : String)
  | trustedProxy (entry : String)
  | rule (group : String) (r : RuleSettings)
  | timeout (group : String) (seconds : Float)
  | globalRate (requestsPerSecond : Float) (burst : Nat)
  | groupRate (group : String) (r : RateLimit)

/-- The error of a check, if it fails. -/
def Check.fault? (compile : PatternCompiler) : Check → Option (Failure GateError)
  | .cidr entry => (Turnstile.fault? (Network.ofEntry? entry)).map fun reason =>
    .reported (.admission (.cidr (Text.trim entry) reason))
  | .trustedProxy entry => (Turnstile.fault? (Network.ofEntry? entry)).map fun reason =>
    .reported (.admission (.trustedProxy (Text.trim entry) reason))
  | .rule group r => (r.mistake? compile group).map .reported
  | .timeout group x => (Turnstile.fault? (Duration.ofSeconds? x)).map fun e =>
    .reported (.config ("group " ++ Text.quoted group ++ ": invalid timeout: " ++ e.message))
  | .globalRate rps burst =>
    (Turnstile.fault? (Limiter.ofRate rps burst)).map (Failure.map .rateLimit)
  | .groupRate group r => (Turnstile.fault? (Limiter.ofRateLimit r)).map
    (Failure.map fun e => .rateLimit (.inGroup group e))

/-- The checks of admission: its networks, and then its proxies. -/
def admissionChecks (s : Settings) : List Check :=
  s.admission.toList.flatMap fun c => c.cidrs.map .cidr ++ c.trustedProxies.map .trustedProxy

/-- The checks of a group: its rules, and then its timeout. -/
def groupChecks (g : GroupSettings) : List Check :=
  g.rules.map (.rule g.name) ++ g.timeoutSeconds.toList.map (.timeout g.name)

/-- The checks of the limits: the global one, and if there is one, those of the groups. -/
def limitChecks (s : Settings) : List Check :=
  s.rateLimit.toList.flatMap fun r =>
    .globalRate r.requestsPerSecond r.burst
      :: s.groups.flatMap fun g => g.rateLimit.toList.map (.groupRate g.name)

/-- All checks, in their order. -/
def checks (s : Settings) : List Check :=
  s.admissionChecks ++ s.groups.flatMap groupChecks ++ s.limitChecks

/-! ## Failing with the first fault -/

section

variable {compile : PatternCompiler} {ε ε' α β γ : Type} {report : ε → Failure GateError}
  {report' : ε' → Failure GateError} {cs cs' : List Check}

/-- Something fails exactly if one of some checks does, and then it reports the first fault. -/
def Checked (compile : PatternCompiler) (report : ε → Failure GateError) (cs : List Check)
    (x : Except ε α) : Prop :=
  (Turnstile.fault? x).map report = cs.findSome? (Check.fault? compile)

/-- **One after another.** If the first fails, all fails with its fault, and if not, it is up to the
second. -/
theorem Checked.andThen {x : Except ε α} {y : Except ε' β} (hx : Checked compile report cs x)
    (herror : ∀ e, x = .error e → ∃ e', y = .error e' ∧ report' e' = report e)
    (hok : ∀ a, x = .ok a → Checked compile report' cs' y) : Checked compile report' (cs ++ cs') y := by
  unfold Checked at hx hok ⊢
  -- the second checks matter only if none of the first fails, which is if `x` does not
  rw [List.findSome?_append, ← hx]
  cases h : x with
  | error e =>
    obtain ⟨e', rfl, hreport⟩ := herror e h
    simp [Turnstile.fault?, hreport]
  | ok a => simpa [Turnstile.fault?] using hok a h

/-- Something that follows, and cannot fail. -/
theorem Checked.followed {x : Except ε α} {y : Except ε' β} (hx : Checked compile report cs x)
    (herror : ∀ e, x = .error e → ∃ e', y = .error e' ∧ report' e' = report e)
    (hok : ∀ a, x = .ok a → ∃ b, y = .ok b) : Checked compile report' cs y := by
  rw [← List.append_nil cs]
  refine hx.andThen herror ?_
  intro a ha
  obtain ⟨b, rfl⟩ := hok a ha
  rfl

/-- The members of a list one after another. -/
theorem Checked.mapM {f : α → Except ε β} {check : α → List Check}
    (hf : ∀ a, Checked compile report (check a) (f a)) (as : List α) :
    Checked compile report (as.flatMap check) (as.mapM f) := by
  induction as with
  | nil => rfl
  | cons a as ih =>
    rw [List.flatMap_cons, mapM_cons_eq]
    refine (hf a).andThen ?_ ?_
    · intro e he
      exact ⟨e, by rw [he], rfl⟩
    · intro b hb
      rw [hb]
      refine ih.followed ?_ ?_
      · intro e he
        exact ⟨e, by rw [he], rfl⟩
      · intro bs hbs
        exact ⟨b :: bs, by rw [hbs]⟩

end

/-! ## The readers of the parts -/

section

variable (compile : PatternCompiler)

/-- The entries of a list, with the errors of any place at which they stand. -/
theorem checked_ofEntries? {place : String × NetworkError → Failure GateError} (check : String → Check)
    (hcheck : ∀ entry, (check entry).fault? compile
      = (Turnstile.fault? (Network.ofEntry? entry)).map fun e => place (Text.trim entry, e))
    (entries : List String) :
    Checked compile place (entries.map check) (Network.ofEntries? entries) := by
  induction entries with
  | nil => rfl
  | cons entry entries ih =>
    have hentry : Checked compile (fun e => place (Text.trim entry, e)) [check entry]
        (Network.ofEntry? entry) := by
      simp [Checked, hcheck]
    unfold Network.ofEntries?
    refine hentry.andThen ?_ ?_
    · intro e he
      exact ⟨(Text.trim entry, e), by rw [he], rfl⟩
    · intro n hn
      rw [hn]
      refine ih.followed ?_ ?_
      · intro e he
        exact ⟨e, by rw [he]; rfl, rfl⟩
      · intro ns hns
        exact ⟨n :: ns, by rw [hns]; rfl⟩

theorem checked_admission (c : AdmissionConfig) :
    Checked compile (fun e => .reported (.admission e))
      (c.cidrs.map .cidr ++ c.trustedProxies.map .trustedProxy) (Admission.of c) := by
  have hcidrs : Checked compile (fun x => .reported (.admission (.cidr x.1 x.2))) (c.cidrs.map .cidr)
      (Network.ofEntries? c.cidrs) :=
    checked_ofEntries? compile .cidr (fun _ => rfl) c.cidrs
  have hproxies : Checked compile (fun x => .reported (.admission (.trustedProxy x.1 x.2)))
      (c.trustedProxies.map .trustedProxy) (Network.ofEntries? c.trustedProxies) :=
    checked_ofEntries? compile .trustedProxy (fun _ => rfl) c.trustedProxies
  unfold Admission.of
  refine hcidrs.andThen ?_ ?_
  · intro e he
    exact ⟨.cidr e.1 e.2, by rw [he], rfl⟩
  · intro cidrs hc
    rw [hc]
    refine hproxies.followed ?_ ?_
    · intro e he
      exact ⟨.trustedProxy e.1 e.2, by rw [he], rfl⟩
    · intro proxies hp
      exact ⟨⟨c.mode, cidrs, .of proxies c.headerPriority⟩, by rw [hp]⟩

theorem checked_admission? (s : Settings) :
    Checked compile .reported s.admissionChecks s.admission? := by
  unfold admissionChecks admission?
  cases s.admission with
  | none => rfl
  | some c =>
    rw [Option.toList_some, List.flatMap_singleton]
    dsimp only
    refine (checked_admission compile c).followed ?_ ?_
    · intro e he
      exact ⟨.admission e, by rw [he]; rfl, rfl⟩
    · intro a ha
      exact ⟨some a, by rw [ha]; rfl⟩

theorem fault?_toRule (group : String) (r : RuleSettings) :
    Turnstile.fault? (r.toRule compile group) = r.mistake? compile group := by
  obtain ⟨full?, beginning?, pattern?⟩ := r
  cases full? with
  | some e => cases beginning? <;> cases pattern? <;> rfl
  | none =>
    cases beginning? with
    | some b => cases pattern? <;> rfl
    | none =>
      cases pattern? with
      | none => rfl
      | some p =>
        have hmistake : RuleSettings.mistake? compile group ⟨none, none, some p⟩
            = if (compile p).isSome then none else some (.invalidPattern p) := rfl
        rw [hmistake]
        dsimp only [RuleSettings.toRule]
        cases compile p <;> rfl

theorem checked_toRule (group : String) (r : RuleSettings) :
    Checked compile .reported [.rule group r] (r.toRule compile group) := by
  unfold Checked
  rw [fault?_toRule compile, List.findSome?_singleton]
  rfl

theorem checked_timeout (group : String) (p : PolicySettings) :
    Checked compile .reported (p.timeoutSeconds.toList.map (.timeout group)) (p.timeout group) := by
  unfold PolicySettings.timeout
  cases p.timeoutSeconds with
  | none => rfl
  | some x =>
    unfold Checked
    rw [Option.toList_some, List.map_singleton, List.findSome?_singleton]
    dsimp only [Check.fault?]
    cases Duration.ofSeconds? x <;> rfl

/-- A group is read by reading its rules, and then its timeout. -/
theorem toGroup_eq (g : GroupSettings) :
    g.toGroup compile = match g.rules.mapM (·.toRule compile g.name) with
      | .error e => .error e
      | .ok rules => match g.policy with
        | none => .ok { name := g.name, rules }
        | some p => match p.timeout g.name with
          | .error e => .error e
          | .ok timeout => .ok
            { name := g.name
              rules
              policy := some { rateLimit := p.rateLimit, timeout, authRequired := p.authRequired } } := by
  unfold GroupSettings.toGroup PolicySettings.toPolicy
  cases g.rules.mapM (·.toRule compile g.name) with
  | error e => rfl
  | ok rules =>
    cases g.policy with
    | none => rfl
    | some p =>
      dsimp only
      cases p.timeout g.name <;> rfl

theorem checked_toGroup (g : GroupSettings) :
    Checked compile .reported (groupChecks g) (g.toGroup compile) := by
  have hrules : Checked compile .reported (g.rules.map (.rule g.name))
      (g.rules.mapM (·.toRule compile g.name)) := by
    rw [List.map_eq_flatMap]
    exact Checked.mapM (checked_toRule compile g.name) g.rules
  rw [toGroup_eq, groupChecks]
  refine hrules.andThen ?_ ?_
  · intro e he
    exact ⟨e, by rw [he], rfl⟩
  · intro rules hr
    rw [hr]
    unfold GroupSettings.timeoutSeconds
    cases g.policy with
    | none => rfl
    | some p =>
      refine (checked_timeout compile g.name p).followed ?_ ?_
      · intro e he
        exact ⟨e, by dsimp only; rw [he], rfl⟩
      · intro timeout ht
        exact ⟨_, by dsimp only; rw [ht]⟩

theorem checked_resolver? (s : Settings) :
    Checked compile .reported (s.groups.flatMap groupChecks) (s.resolver? compile) := by
  unfold resolver?
  cases hg : s.groups with
  | nil => rfl -- without groups nothing is read
  | cons g gs =>
    have hgroups := Checked.mapM (checked_toGroup compile) (g :: gs)
    refine hgroups.followed ?_ ?_
    · intro e he
      exact ⟨e, by simp only [he]; rfl, rfl⟩
    · intro groups h
      exact ⟨some ⟨groups⟩, by simp only [h]; rfl⟩

end

end Settings

end Turnstile
