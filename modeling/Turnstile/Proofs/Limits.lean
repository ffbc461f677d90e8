import Turnstile.Settings
import Turnstile.Proofs.Charge
import Turnstile.Proofs.Composition

/-!
# Limits that break down

A limit that is no good is reported: a rate or a burst of zero, a rate that is no number, a period too
short to count. One fault is not. The time in which a bucket fills has to fit into 64 bits of
nanoseconds, and nothing checks that it does, so making such a limiter breaks down. Here it is read off
the numbers of a limit when this happens, and from there for gates, builders and settings.

* `Limiter.ofRateLimit_breakdown_iff`, `Limiter.ofRate_breakdown_iff`: limiters.
* `RateGate.Overfull`: a list of groups whose first bad limit is one that breaks down.
* `Builder.applyAll_breakdown_iff`, `Settings.build_breakdown_iff`: pipelines.
* `limits_answered`: what is made or reported, and that all else breaks down.
-/

namespace Turnstile

/-! ## Limiters -/

namespace Limiter

/-- A limiter breaks down exactly if its bucket takes too long to fill. -/
theorem ofPeriod_breakdown_iff (period : Duration) (burst : Nat) (rps : Float) :
    ofPeriod period burst rps = .error .breakdown ↔ Word.bound64 ≤ period.nanos * burst := by
  have hbound : Word.bound64 ≠ 0 := by decide
  unfold ofPeriod
  by_cases hb : 0 < burst
  · by_cases hp : 0 < period.nanos
    · by_cases hs : period.nanos * burst < Word.bound64
      · simp [hb, hp, hs]
      · simp [hb, hp, hs, Nat.le_of_not_lt hs]
    · have hz : period.nanos = 0 := Nat.eq_zero_of_not_pos hp
      simp [hb, hz, hbound]
  · obtain rfl : burst = 0 := Nat.eq_zero_of_not_pos hb
    simp [hbound]

/-- The limiter of a rate limit breaks down exactly if its requests, each with its share of the window,
take too long. -/
theorem ofRateLimit_breakdown_iff (r : RateLimit) :
    ofRateLimit r = .error .breakdown ↔ Word.bound64 ≤ r.window.nanos / r.rate * r.rate := by
  unfold ofRateLimit
  by_cases hr : r.rate = 0
  · have hbound : ¬Word.bound64 ≤ 0 := by decide
    simp [hr, hbound]
  · rw [if_neg hr, ofPeriod_breakdown_iff, Duration.nanos_dividedBy]

/-- The limiter of a rate breaks down exactly if the rate is one, with a period that is a duration, and
as many periods as the burst take too long. -/
theorem ofRate_breakdown_iff (rps : Float) (burst : Nat) :
    ofRate rps burst = .error .breakdown
      ↔ isRate rps = true ∧ ∃ period, Duration.ofSeconds? (1.0 / rps) = .ok period
          ∧ Word.bound64 ≤ period.nanos * burst := by
  unfold ofRate
  cases isRate rps with
  | false => simp
  | true =>
    cases Duration.ofSeconds? (1.0 / rps) with
    | error e => simp
    | ok period => simp [ofPeriod_breakdown_iff]

end Limiter

/-! ## Rate gates -/

namespace RateGate

/-- All rate limits of some groups have limiters. -/
def Sound (groups : List Group) : Prop :=
  ∀ g ∈ groups, ∀ r, g.rateLimit = some r → ∃ l, Limiter.ofRateLimit r = .ok l

/-- The first of the groups' rate limits that has no limiter is one whose bucket takes too long to
fill. -/
def Overfull (groups : List Group) : Prop :=
  ∃ before g after r, groups = before ++ g :: after ∧ Sound before
    ∧ g.rateLimit = some r ∧ Word.bound64 ≤ r.window.nanos / r.rate * r.rate

/-- A group whose limit is good, or that has none, makes no difference. -/
theorem overfull_cons_of_sound {g : Group} {gs : List Group} (hg : Sound [g]) :
    Overfull (g :: gs) ↔ Overfull gs := by
  have hhead := hg g List.mem_cons_self
  constructor
  · rintro ⟨before, x, after, r, hsplit, hbefore, hr, hlong⟩
    cases before with
    | nil =>
      obtain ⟨rfl, -⟩ := List.cons.inj hsplit
      obtain ⟨l, hl⟩ := hhead r hr
      rw [(Limiter.ofRateLimit_breakdown_iff r).mpr hlong] at hl
      cases hl
    | cons y before =>
      obtain ⟨rfl, htail⟩ := List.cons.inj hsplit
      exact ⟨before, x, after, r, htail, (List.forall_mem_cons.mp hbefore).2, hr, hlong⟩
  · rintro ⟨before, x, after, r, rfl, hbefore, hr, hlong⟩
    exact ⟨g :: before, x, after, r, rfl, List.forall_mem_cons.mpr ⟨hhead, hbefore⟩, hr, hlong⟩

/-- A group whose limit is bad decides. -/
theorem overfull_cons_of_error {g : Group} {gs : List Group} {r : RateLimit}
    {e : Failure LimitError} (hr : g.rateLimit = some r) (he : Limiter.ofRateLimit r = .error e) :
    Overfull (g :: gs) ↔ e = .breakdown := by
  constructor
  · rintro ⟨before, x, after, r', hsplit, hbefore, hr', hlong⟩
    cases before with
    | nil =>
      obtain ⟨rfl, -⟩ := List.cons.inj hsplit
      obtain rfl : r = r' := Option.some.inj (hr.symm.trans hr')
      exact Except.error.inj (he.symm.trans ((Limiter.ofRateLimit_breakdown_iff r).mpr hlong))
    | cons y before =>
      obtain ⟨rfl, -⟩ := List.cons.inj hsplit
      obtain ⟨l, hl⟩ := hbefore g List.mem_cons_self r hr
      rw [he] at hl
      cases hl
  · rintro rfl
    exact ⟨[], g, gs, r, rfl, (by intro x hx; cases hx), hr,
      (Limiter.ofRateLimit_breakdown_iff r).mp he⟩

theorem checkGroups_breakdown_iff (groups : List Group) :
    checkGroups groups = .error .breakdown ↔ Overfull groups := by
  induction groups with
  | nil =>
    constructor
    · intro h
      cases h
    · rintro ⟨before, g, after, r, hsplit, -⟩
      simp at hsplit
  | cons g gs ih =>
    unfold checkGroups
    cases hr : g.rateLimit with
    | none =>
      have hg : Sound [g] := by simp [Sound, hr]
      exact ih.trans (overfull_cons_of_sound hg).symm
    | some r =>
      dsimp only
      cases hl : Limiter.ofRateLimit r with
      | ok l =>
        have hg : Sound [g] := by simp [Sound, hr, hl]
        exact ih.trans (overfull_cons_of_sound hg).symm
      | error e =>
        rw [overfull_cons_of_error hr hl]
        cases e <;> simp [Failure.map]

/-- A gate breaks down exactly if the first bad limit of its groups does. -/
theorem of_breakdown_iff (global : Limiter) (resolver : Option Resolver) :
    RateGate.of global resolver = .error .breakdown ↔ Overfull (groupsOf resolver) := by
  rw [← checkGroups_breakdown_iff]
  unfold RateGate.of groupsOf
  cases checkGroups ((resolver.map Resolver.groups).getD []) with
  | ok _ => simp
  | error e => simp

end RateGate

/-! ## Builders and settings -/

/-- A global rate limit breaks down, or is good and the groups' limits break down. -/
def Overlong (rps : Float) (burst : Nat) (resolver : Option Resolver) : Prop :=
  Limiter.ofRate rps burst = .error .breakdown
    ∨ (∃ l, Limiter.ofRate rps burst = .ok l) ∧ RateGate.Overfull (RateGate.groupsOf resolver)

theorem Choices.limits_breakdown_iff {σ ν : Type} (c : Choices σ ν) :
    c.limits = .error .breakdown
      ↔ ∃ rps burst, c.rateLimit = some (rps, burst) ∧ Overlong rps burst c.resolver := by
  unfold Choices.limits Overlong
  cases hr : c.rateLimit with
  | none => simp
  | some limit =>
    obtain ⟨rps, burst⟩ := limit
    dsimp only
    cases hl : Limiter.ofRate rps burst with
    | error e => simp [hl]
    | ok l =>
      have hgate := RateGate.of_breakdown_iff l c.resolver
      dsimp only
      cases hg : RateGate.of l c.resolver with
      | error e =>
        rw [hg] at hgate
        simp [hl, ← hgate]
      | ok g =>
        rw [hg] at hgate
        simp [hl, ← hgate]

open PipelineOption

/-- Building breaks down exactly if a global rate limit was given that does, or that is good while the
groups' limits break down. Without a global rate limit nothing looks at those. -/
theorem Builder.applyAll_breakdown_iff {σ ν : Type} (os : List (PipelineOption σ ν)) :
    (({} : Builder σ ν).applyAll os).build = .error .breakdown
      ↔ ∃ rps burst, last? rateLimit? os = some (rps, burst)
          ∧ Overlong rps burst (last? resolver? os) := by
  rw [Choices.applyAll_eq, Choices.build_builder]
  refine Iff.trans ?_ (Choices.limits_breakdown_iff (Choices.of os))
  cases (Choices.of os).limits with
  | ok g => simp
  | error e => cases e <;> simp [Failure.map]

/-- The options of settings have the resolver and the rate limit that were written. -/
theorem Settings.limits_of_options {compile : PatternCompiler} {σ ν : Type} {s : Settings}
    {os : List (PipelineOption σ ν)} (h : s.options compile σ ν = .ok os) :
    s.resolver? compile = .ok (last? PipelineOption.resolver? os)
      ∧ last? rateLimit? os = s.rateLimit.map fun r => (r.requestsPerSecond, r.burst) := by
  unfold Settings.options at h
  cases ha : s.admission? with
  | error e => rw [ha] at h; cases h
  | ok admission =>
    cases hr : s.resolver? compile with
    | error e => rw [ha, hr] at h; cases h
    | ok resolver =>
      rw [ha, hr] at h
      obtain rfl := Except.ok.inj h
      simp only [last?_append, last?_flag, last?_option]
      constructor
      · cases resolver <;> simp [PipelineOption.resolver?]
      · cases s.rateLimit <;> simp [rateLimit?]

/-- Building from settings breaks down exactly if all before the limits can be read, and the limits that
were written break down. -/
theorem Settings.build_breakdown_iff (compile : PatternCompiler) (σ ν : Type) (s : Settings) :
    s.build compile σ ν = .error .breakdown
      ↔ ∃ admission resolver r, s.admission? = .ok admission ∧ s.resolver? compile = .ok resolver
          ∧ s.rateLimit = some r ∧ Overlong r.requestsPerSecond r.burst resolver := by
  unfold Settings.build Settings.builder
  cases ho : s.options compile σ ν with
  | error e =>
    constructor
    · intro h
      cases h
    · rintro ⟨admission, resolver, r, ha, hr, -⟩
      rw [Settings.options, ha, hr] at ho
      cases ho
  | ok os =>
    obtain ⟨hres, hrate⟩ := Settings.limits_of_options ho
    have ha : ∃ admission, s.admission? = .ok admission := by
      cases ha : s.admission? with
      | error e => rw [Settings.options, ha] at ho; cases ho
      | ok admission => exact ⟨admission, rfl⟩
    simp only [Except.map, Builder.applyAll_breakdown_iff, hrate, hres]
    cases s.rateLimit with
    | none => simp
    | some r => simp [ha]

/-! ## The main statement -/

/-- Something was made, or the reason why it was not is reported. -/
def Answered {ε α : Type} (made : Except (Failure ε) α) : Prop :=
  (∃ a, made = .ok a) ∨ ∃ e, made = .error (.reported e)

theorem not_answered_iff {ε α : Type} (made : Except (Failure ε) α) :
    ¬Answered made ↔ made = .error .breakdown := by
  unfold Answered
  cases made with
  | ok a => simp
  | error e => cases e <;> simp

theorem answered_iff {ε α : Type} {made : Except (Failure ε) α} {p : Prop}
    (h : made = .error .breakdown ↔ p) : Answered made ↔ ¬p := by
  rw [← h, ← not_answered_iff, not_not]

/-- **Which limits break down.** All that can be wrong with a limit is reported, except that a bucket
takes too long to fill:
* a rate limit is answered exactly if its requests, each with its share of the window, fit into 64 bits
  of nanoseconds, and so it is if the window does;
* a rate is answered exactly if as many of its periods as the burst fit, where it has a period;
* a rate gate is answered unless the first bad rate limit among its groups is one that does not fit;
* building, from options or from settings, is answered unless there is a global rate limit, and that
  does not fit, or it is good and the rate gate is not answered. -/
theorem limits_answered (compile : PatternCompiler) (σ ν : Type) :
    (∀ r, (Answered (Limiter.ofRateLimit r) ↔ r.window.nanos / r.rate * r.rate < Word.bound64)
      ∧ (r.window.nanos < Word.bound64 → Answered (Limiter.ofRateLimit r)))
    ∧ (∀ rps burst, Answered (Limiter.ofRate rps burst)
      ↔ (Limiter.isRate rps = true → ∀ period, Duration.ofSeconds? (1.0 / rps) = .ok period →
          period.nanos * burst < Word.bound64))
    ∧ (∀ global resolver, Answered (RateGate.of global resolver)
      ↔ ¬RateGate.Overfull (RateGate.groupsOf resolver))
    ∧ (∀ os : List (PipelineOption σ ν), Answered (({} : Builder σ ν).applyAll os).build
      ↔ ∀ rps burst, last? rateLimit? os = some (rps, burst) →
          ¬Overlong rps burst (last? resolver? os))
    ∧ ∀ s : Settings, Answered (s.build compile σ ν)
      ↔ ∀ admission resolver r, s.admission? = .ok admission → s.resolver? compile = .ok resolver →
          s.rateLimit = some r → ¬Overlong r.requestsPerSecond r.burst resolver := by
  refine ⟨?_, ?_, ?_, ?_, ?_⟩
  · intro r
    rw [answered_iff (Limiter.ofRateLimit_breakdown_iff r), Nat.not_le]
    exact ⟨Iff.rfl, Nat.lt_of_le_of_lt (Nat.div_mul_le_self _ _)⟩
  · intro rps burst
    rw [answered_iff (Limiter.ofRate_breakdown_iff rps burst)]
    simp only [not_and, not_exists, Nat.not_le]
  · intro global resolver
    exact answered_iff (RateGate.of_breakdown_iff global resolver)
  · intro os
    rw [answered_iff (Builder.applyAll_breakdown_iff os)]
    simp only [not_and, not_exists]
  · intro s
    rw [answered_iff (Settings.build_breakdown_iff compile σ ν s)]
    simp only [not_and, not_exists]

/-- One request in a window of so many seconds is answered up to the last second that fits into 64 bits
of nanoseconds, and not beyond. -/
theorem limits_answered_to_the_last_second :
    Answered (Limiter.ofRateLimit ⟨1, .ofWholeSeconds 18446744073⟩)
      ∧ ¬Answered (Limiter.ofRateLimit ⟨1, .ofWholeSeconds 18446744074⟩) := by
  have hlimits := (limits_answered (fun _ => none) Unit Unit).1
  refine ⟨(hlimits _).2 (by decide), ?_⟩
  intro hanswered
  exact absurd ((hlimits _).1.mp hanswered) (by decide)

/-- A rate limit of one request in 585 years breaks down, on its own and in a group, as does a rate of one
request in 317 years with a burst of two. -/
theorem limits_unanswered :
    let long : RateLimit := ⟨1, .ofWholeSeconds 18446744074⟩
    let policy : Policy := { rateLimit := some long }
    let r : Resolver := ⟨[⟨"slow", [.beginning "/slow."], some policy⟩]⟩
    let global : Limiter := ⟨1.0, 2, 1000000000, by decide, by decide, by decide⟩
    ¬Answered (Limiter.ofRateLimit long)
      ∧ ¬Answered (Limiter.ofRate 0.0000000001 2)
      ∧ ¬Answered (RateGate.of global (some r))
      ∧ ¬Answered (({} : Builder Unit Unit).applyAll [.rateLimit 0.0000000001 2]).build := by
  intro long policy r global
  have hlong : Limiter.ofRateLimit long = .error .breakdown :=
    (Limiter.ofRateLimit_breakdown_iff long).mpr (by decide)
  have hslow : Limiter.ofRate 0.0000000001 2 = .error .breakdown :=
    (Limiter.ofRate_breakdown_iff _ _).mpr
      ⟨by decide +kernel, ⟨10000000000000000000⟩, by decide +kernel, by decide⟩
  simp only [not_answered_iff]
  refine ⟨hlong, hslow, ?_, ?_⟩
  · exact (RateGate.of_breakdown_iff global (some r)).mpr
      ⟨[], _, [], long, rfl, (by intro x hx; cases hx), rfl, by decide⟩
  · exact (Builder.applyAll_breakdown_iff _).mpr ⟨_, _, rfl, .inl hslow⟩

end Turnstile
