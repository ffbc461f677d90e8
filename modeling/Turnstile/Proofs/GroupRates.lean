import Turnstile.Proofs.Compilation

/-!
# Rate limits of groups in settings

The rate limits of the groups are checked when the rate gate is made, and there is a rate gate only with a
global rate limit. So with a global rate limit every pipeline that can be built has good limits in all its
groups. Without one nothing looks at the limits of the groups: they are carried into the policies as they
are written, good or not, and decide neither whether there is a pipeline nor any of its gates.

* `GroupSettings.withRate`, `Settings.withRates`: the same settings with other rate limits in the groups.
* `Settings.group_rates_checked`: when the rate limits of the groups are checked.
-/

namespace Turnstile

/-- A rate limit for which there is a limiter allows something, and its period is at least a nanosecond.
-/
theorem Limiter.share_of_ofRateLimit {r : RateLimit} {l : Limiter} (h : Limiter.ofRateLimit r = .ok l) :
    1 ≤ r.rate ∧ 1 ≤ r.window.nanos / r.rate := by
  obtain ⟨hperiod, hburst⟩ := Limiter.terms_ofRateLimit h
  rw [← hperiod, ← hburst]
  exact ⟨l.burst_pos, l.period_pos⟩

/-- A group with another rate limit in its policy, if it has one. -/
def GroupSettings.withRate (g : GroupSettings) (r : Option RateLimit) : GroupSettings :=
  { g with policy := g.policy.map fun p => { p with rateLimit := r } }

/-- Settings with other rate limits in their groups. -/
def Settings.withRates (s : Settings) (rates : GroupSettings → Option RateLimit) : Settings :=
  { s with groups := s.groups.map fun g => g.withRate (rates g) }

@[simp] theorem GroupSettings.timeoutSeconds_withRate (g : GroupSettings) (r : Option RateLimit) :
    (g.withRate r).timeoutSeconds = g.timeoutSeconds := by
  unfold timeoutSeconds withRate
  cases g.policy <;> rfl

namespace Settings

variable {compile : PatternCompiler} {σ ν : Type}

@[simp] theorem groupChecks_withRate (g : GroupSettings) (r : Option RateLimit) :
    groupChecks (g.withRate r) = groupChecks g := by
  unfold groupChecks
  rw [GroupSettings.timeoutSeconds_withRate]
  rfl

/-- Without a global rate limit no check is about the rate limit of a group. -/
theorem checks_withRates {s : Settings} (h : s.rateLimit = none)
    (rates : GroupSettings → Option RateLimit) : (s.withRates rates).checks = s.checks := by
  have hgroups : (s.withRates rates).groups.flatMap groupChecks = s.groups.flatMap groupChecks := by
    simp only [withRates, List.flatMap_map, groupChecks_withRate]
  -- the checks of the groups' rates stand behind the global one, so there are none on either side
  have hlimits : (s.withRates rates).limitChecks = [] := by
    simp [limitChecks, withRates, h]
  have hlimits' : s.limitChecks = [] := by
    simp [limitChecks, h]
  unfold checks
  rw [hgroups, hlimits, hlimits']
  rfl

/-- What is built has no rate gate if no global rate limit is written. -/
theorem Compiled.rateGate_eq_none {s : Settings} {p : Pipeline σ ν} (h : s.Compiled compile p)
    (hs : s.rateLimit = none) : p.rateGate = none := by
  have hlimits := h.limits
  rw [hs] at hlimits
  generalize p.rateGate = g at hlimits
  cases hlimits
  rfl

/-- The check of a rate limit is whether there is a limiter for it. -/
theorem exists_of_groupRate {group : String} {r : RateLimit}
    (h : (Check.groupRate group r).fault? compile = none) : ∃ l, Limiter.ofRateLimit r = .ok l := by
  dsimp only [Check.fault?] at h
  cases hl : Limiter.ofRateLimit r with
  | ok l => exact ⟨l, rfl⟩
  | error e => rw [hl] at h; cases h

/-- The rate limit of a group is among the checks if there is a global one. -/
theorem mem_checks_of_rateLimit {s : Settings} (hs : s.rateLimit.isSome) {g : GroupSettings}
    (hg : g ∈ s.groups) {r : RateLimit} (hr : g.rateLimit = some r) :
    .groupRate g.name r ∈ s.checks := by
  obtain ⟨global, hglobal⟩ := Option.isSome_iff_exists.mp hs
  have hgroup : Check.groupRate g.name r ∈
      s.groups.flatMap fun g => g.rateLimit.toList.map (.groupRate g.name) :=
    List.mem_flatMap.mpr ⟨g, hg, by simp [hr]⟩
  refine List.mem_append_right _ ?_
  rw [limitChecks, hglobal, Option.toList_some, List.flatMap_singleton]
  exact List.mem_cons_of_mem _ hgroup

/-- **Rate limits of groups.** Whatever else is written,
* if a pipeline is built and a global rate limit is written, every rate limit of a group has a limiter; so
  it allows something, and its period is at least a nanosecond;
* if no global rate limit is written, the rate limits of the groups make no difference: with any others
  there is the same error or none either way, and a pipeline has the others as they are written, and no
  gate that would hold a call to them. -/
theorem group_rates_checked (compile : PatternCompiler) (σ ν : Type) (s : Settings) :
    (∀ p : Pipeline σ ν, s.build compile σ ν = .ok p → s.rateLimit.isSome →
      ∀ g ∈ s.groups, ∀ r, g.rateLimit = some r →
        (∃ l, Limiter.ofRateLimit r = .ok l) ∧ 1 ≤ r.rate ∧ 1 ≤ r.window.nanos / r.rate)
    ∧ (s.rateLimit = none → ∀ rates : GroupSettings → Option RateLimit,
      (∀ e, (s.withRates rates).build compile σ ν = .error e ↔ s.build compile σ ν = .error e)
      ∧ ∀ p : Pipeline σ ν, (s.withRates rates).build compile σ ν = .ok p →
        (s.withRates rates).Compiled compile p ∧ p.rateGate = none) := by
  refine ⟨?_, ?_⟩
  · intro p hp hs g hg r hr
    have hgood : (Check.groupRate g.name r).fault? compile = none :=
      exists_build_iff.mp ⟨p, hp⟩ _ (mem_checks_of_rateLimit hs hg hr)
    obtain ⟨l, hl⟩ := exists_of_groupRate hgood
    exact ⟨⟨l, hl⟩, Limiter.share_of_ofRateLimit hl⟩
  · intro hs rates
    refine ⟨?_, ?_⟩
    · intro e
      rw [build_eq_error_iff, build_eq_error_iff, checks_withRates hs]
    · intro p hp
      have hcompiled : (s.withRates rates).Compiled compile p := compiled_of_build hp
      exact ⟨hcompiled, hcompiled.rateGate_eq_none hs⟩

/-- A group of three requests per minute beside a global rate limit, and the same group without one, where
it could as well allow no request at all. -/
theorem group_rates_checked_with_and_without :
    let compile : PatternCompiler := fun _ => none
    let policy : PolicySettings := { rateLimit := some (.perMinute 3), timeoutSeconds := some 1.5 }
    let alone : Settings := { groups := [⟨"g", [⟨none, some "/", none⟩], some policy⟩] }
    let limited : Settings := { alone with rateLimit := some ⟨2.5, 3⟩ }
    let unlimited : Settings := alone.withRates fun _ => some (.perSecond 0)
    (∃ p, limited.build compile Unit Unit = .ok p)
      ∧ (∃ l, Limiter.ofRateLimit (.perMinute 3) = .ok l) ∧ 1 ≤ (60000000000 : Nat) / 3
      ∧ ∃ p, unlimited.build compile Unit Unit = .ok p ∧ unlimited.Compiled compile p
        ∧ p.rateGate = none := by
  intro compile policy alone limited unlimited
  obtain ⟨p, hp⟩ : ∃ p, limited.build compile Unit Unit = .ok p :=
    exists_build_iff.mpr (by decide +kernel)
  obtain ⟨hlimiter, -, hperiod⟩ :=
    (group_rates_checked compile Unit Unit limited).1 p hp rfl _ List.mem_cons_self (.perMinute 3) rfl
  obtain ⟨q, hq⟩ : ∃ p, unlimited.build compile Unit Unit = .ok p :=
    exists_build_iff.mpr (by decide +kernel)
  obtain ⟨hcompiled, hgate⟩ :=
    ((group_rates_checked compile Unit Unit alone).2 rfl fun _ => some (.perSecond 0)).2 q hq
  exact ⟨⟨p, hp⟩, hlimiter, hperiod, q, hq, hcompiled, hgate⟩

/-- A pipeline in which the policy of a method has a rate limit that allows nothing, and for which there
is no limiter. -/
theorem group_rates_unchecked :
    let compile : PatternCompiler := fun _ => none
    let rate : RateLimit := .perSecond 0
    let policy : PolicySettings := { rateLimit := some rate }
    let s : Settings := { groups := [⟨"g", [⟨none, some "/", none⟩], some policy⟩] }
    (∃ p, s.build compile Unit Unit = .ok p
      ∧ p.policyFor? "/svc.Service/Get" = some ("g", some { rateLimit := some rate }))
      ∧ (∃ g ∈ s.groups, g.rateLimit = some rate)
      ∧ ¬∃ l, Limiter.ofRateLimit rate = .ok l := by
  intro compile rate policy s
  have hpolicy : ((s.build compile Unit Unit).toOption.bind fun p => p.policyFor? "/svc.Service/Get")
      = some ("g", some { rateLimit := some rate }) := by
    decide +kernel
  refine ⟨?_, ⟨_, List.mem_cons_self, rfl⟩, ?_⟩
  · cases hb : s.build compile Unit Unit with
    | error e => rw [hb] at hpolicy; cases hpolicy
    | ok p =>
      rw [hb] at hpolicy
      exact ⟨p, rfl, hpolicy⟩
  · rintro ⟨l, hl⟩
    exact absurd (Limiter.share_of_ofRateLimit hl).1 (by decide)

end Settings

end Turnstile
