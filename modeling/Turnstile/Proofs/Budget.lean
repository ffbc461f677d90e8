import Turnstile.Proofs.Bucket

/-!
# The budget of a limiter

Every admitted take moves the due instant on by a period, and none is admitted that comes more than a
full bucket ahead of it. So the takes that are admitted between two instants are as many as tokens come
back in that time, and a full bucket, and one more: a bucket that has been left alone expects its next
take at once, and only one that has never been drawn from expects it a period late.

* `Bucket.due_add_le`: what the takes before an admitted one have moved the due instant on by;
  `Bucket.max_due_add_le`, from one admitted take to another.
* `Bucket.Budgeted`: how many takes of a log are admitted from one to another.
* `Bucket.budget_kept`: every limiter keeps to its budget, over every stretch of every run.
-/

namespace Turnstile.Bucket

/-! ## Logs -/

/-- No take of a log is before the instant from which the run starts. -/
theorem le_instant_of_log {b : Bucket} {now : Nat} {es : List Event} :
    ∀ x ∈ b.log now es, now ≤ x.instant := by
  induction es generalizing b now with
  | nil =>
    intro x hx
    cases hx
  | cons e es ih =>
    intro x hx
    cases e with
    | wait nanos => exact Nat.le_trans (Nat.le_add_right now nanos) (ih x hx)
    | take =>
      rcases List.mem_cons.mp hx with rfl | hx
      · exact Nat.le_refl now
      · exact ih x hx

/-- A log from one of its takes on: the bucket as that take finds it, and the takes after it. -/
theorem exists_of_log_eq {b : Bucket} {now : Nat} {es : List Event} {before after : List Take}
    {x : Take} (ho : b.opened ≤ now) (h : b.log now es = before ++ x :: after) :
    ∃ b' es', b'.limiter = b.limiter ∧ b'.opened ≤ x.instant ∧ (before = [] → b' = b)
      ∧ x.allowed = (b'.take x.instant).1 ∧ after = (b'.take x.instant).2.log x.instant es' := by
  induction es generalizing b now before with
  | nil => simp [log, logOf] at h
  | cons e es ih =>
    cases e with
    | wait nanos => exact ih (Nat.le_add_right_of_le ho) h
    | take =>
      cases before with
      | nil =>
        obtain ⟨rfl, rfl⟩ := List.cons.inj h
        exact ⟨b, es, rfl, ho, fun _ => rfl, rfl, rfl⟩
      | cons y before =>
        obtain ⟨b', es', hl, ho', -, hx⟩ :=
          ih (by rw [opened_take]; exact ho) (List.cons.inj h).2
        exact ⟨b', es', hl.trans (limiter_take b now), ho', fun hn => (by cases hn), hx⟩

/-! ## How far the due instant moves -/

/-- **The takes before an admitted one** have moved the due instant on by a period each, and still that
take does not come more than a full bucket ahead of it. -/
theorem due_add_le {b : Bucket} {now d : Nat} {es : List Event} {before after : List Take}
    {last : Take} (ho : b.opened ≤ now) (hd : b.due? = some d)
    (hlog : b.log now es = before ++ last :: after) (hlast : last.allowed = true) :
    d + b.limiter.period * before.countP Take.allowed ≤ last.instant + b.limiter.span := by
  induction es generalizing b now d before with
  | nil => simp [log, logOf] at hlog
  | cons e es ih =>
    cases e with
    | wait nanos => exact ih (Nat.le_add_right_of_le ho) hd hlog
    | take =>
      have hdue := due_of_due? hd now
      cases before with
      | nil =>
        obtain ⟨rfl, -⟩ := List.cons.inj hlog
        have hle := due_le_of_allowed ho hlast
        simp only [List.countP_nil, Nat.mul_zero]
        omega
      | cons x before =>
        obtain ⟨rfl, hrest⟩ := List.cons.inj hlog
        have ho' : (b.take now).2.opened ≤ now := by rw [opened_take]; exact ho
        cases ha : (b.take now).1 with
        | false =>
          have hsame := take_snd_of_refused ha
          have hih := ih ho' (hsame ▸ hd) hrest
          rw [limiter_take] at hih
          rw [List.countP_cons_of_neg (by simp)]
          exact hih
        | true =>
          have hih := ih ho' (due?_of_allowed ho ha) hrest
          rw [limiter_take] at hih
          rw [List.countP_cons_of_pos (by rfl), Nat.mul_succ]
          omega

/-- **From one admitted take to another**: the first and those between have moved the due instant on by a
period each, from where it was or from the first if it had passed. -/
theorem max_due_add_le {b : Bucket} {now : Nat} {es : List Event} {between after : List Take}
    {last : Take} (ho : b.opened ≤ now) (ha : (b.take now).1 = true)
    (hlog : (b.take now).2.log now es = between ++ last :: after) (hlast : last.allowed = true) :
    max (b.due now) now + b.limiter.period * (between.countP Take.allowed + 1)
      ≤ last.instant + b.limiter.span := by
  have ho' : (b.take now).2.opened ≤ now := by rw [opened_take]; exact ho
  have hmoved := due_add_le ho' (due?_of_allowed ho ha) hlog hlast
  rw [limiter_take] at hmoved
  rw [Nat.mul_succ]
  omega

/-! ## Budgets -/

/-- From one admitted take of a log to another, both included, no more takes are admitted than a full
bucket, the tokens that come back in that time, and one more; from the very first take on, that one is
missing. -/
def Budgeted (period burst : Nat) (takes : List Take) : Prop :=
  ∀ before stretch after first last, takes = before ++ stretch ++ after →
    stretch.head? = some first → stretch.getLast? = some last →
    first.allowed = true → last.allowed = true →
    first.instant ≤ last.instant
      ∧ stretch.countP Take.allowed ≤ burst + 1 + (last.instant - first.instant) / period
      ∧ (before = [] →
        stretch.countP Take.allowed ≤ burst + (last.instant - first.instant) / period)

/-- What fits into some time and a full bucket, counted in periods. -/
theorem le_add_div {period burst n elapsed : Nat} (hp : 0 < period)
    (h : period * n ≤ elapsed + period * burst) : n ≤ burst + elapsed / period := by
  have hn : n ≤ (elapsed + period * burst) / period := by
    rw [Nat.le_div_iff_mul_le hp, Nat.mul_comm]
    exact h
  rw [Nat.add_mul_div_left _ _ hp] at hn
  omega

/-- A bucket keeps to the budget of its limiter. -/
theorem budgeted_log (l : Limiter) (opened : Nat) (es : List Event) :
    Budgeted l.period l.burst ((fresh l opened).log opened es) := by
  intro before stretch after first last hlog hhead hlast hf hl
  obtain ⟨rest, rfl⟩ : ∃ rest, stretch = first :: rest := by
    cases stretch with
    | nil => cases hhead
    | cons x rest => exact ⟨rest, by rw [Option.some.inj hhead]⟩
  rw [List.append_assoc, List.cons_append] at hlog
  -- the bucket as the first take of the stretch finds it
  obtain ⟨b, es', hlimiter, ho, hb, ha, hrest⟩ := exists_of_log_eq (Nat.le_refl opened) hlog
  rw [limiter_fresh] at hlimiter
  have hadmitted : (b.take first.instant).1 = true := ha ▸ hf
  rcases List.eq_nil_or_concat rest with rfl | ⟨between, x, rfl⟩
  · -- the stretch is one take
    obtain rfl : first = last := Option.some.inj hlast
    have hburst := l.burst_pos
    rw [List.countP_cons_of_pos hf, List.countP_nil]
    exact ⟨Nat.le_refl _, Nat.le_add_right_of_le (by omega), fun _ => Nat.le_add_right_of_le hburst⟩
  · rw [List.concat_eq_append] at *
    obtain rfl : x = last := by simpa [List.getLast?_cons] using hlast
    rw [List.append_assoc] at hrest
    have hmoved := max_due_add_le ho hadmitted hrest.symm hl
    have hlater := le_instant_of_log x (by rw [← hrest]; simp)
    have hcount : (first :: (between ++ [x])).countP Take.allowed
        = between.countP Take.allowed + 1 + 1 := by
      rw [List.countP_cons_of_pos hf, List.countP_append, List.countP_cons_of_pos hl,
        List.countP_nil]
    rw [hlimiter] at hmoved
    unfold Limiter.span at hmoved
    rw [hcount]
    refine ⟨hlater, ?_, ?_⟩
    · have hle : between.countP Take.allowed + 1 ≤ l.burst + (x.instant - first.instant) / l.period :=
        le_add_div l.period_pos (by omega)
      omega
    · intro hn
      -- a bucket that has never been drawn from is due a period late
      have hfresh : b.due first.instant = first.instant + l.period := by
        rw [hb hn]
        rfl
      rw [hfresh] at hmoved
      exact le_add_div l.period_pos (by rw [Nat.mul_succ]; omega)

/-! ## The main statement -/

/-- **Every limiter keeps to its budget**, in every run from when it is made. For the limiter of a rate
limit the period is the window shared out among the requests and the burst is their number; for the
limiter of a rate the period is the time of one request and the burst is as given. -/
theorem budget_kept (opened : Nat) (es : List Event) :
    (∀ r l, Limiter.ofRateLimit r = .ok l →
      Budgeted (r.window.nanos / r.rate) r.rate ((fresh l opened).log opened es))
    ∧ ∀ rps burst l, Limiter.ofRate rps burst = .ok l →
        ∃ period, Duration.ofSeconds? (1.0 / rps) = .ok period
          ∧ Budgeted period.nanos burst ((fresh l opened).log opened es) := by
  constructor
  · intro r l h
    obtain ⟨hperiod, hburst⟩ := Limiter.terms_ofRateLimit h
    rw [← hperiod, ← hburst]
    exact budgeted_log l opened es
  · intro rps burst l h
    obtain ⟨period, hseconds, hperiod, hburst⟩ := Limiter.terms_ofRate h
    refine ⟨period, hseconds, ?_⟩
    rw [← hperiod, ← hburst]
    exact budgeted_log l opened es

/-- Two requests in twenty nanoseconds: at once two takes of three are admitted, and a hundred
nanoseconds later three of four, so that neither bound can be lower. The same takes at a limiter of one
request a second. -/
theorem budget_kept_both_bursts :
    let es : List Event := [.take, .take, .take, .wait 100, .take, .take, .take, .take]
    let early : List Take := [⟨0, true⟩, ⟨0, true⟩]
    let late : List Take := List.replicate 3 ⟨100, true⟩
    (∃ l, Limiter.ofRateLimit ⟨2, ⟨20⟩⟩ = .ok l
      ∧ (fresh l 0).log 0 es = early ++ [⟨0, false⟩] ++ late ++ [⟨100, false⟩]
      ∧ early.countP Take.allowed ≤ 2 + (0 - 0) / 10
      ∧ late.countP Take.allowed ≤ 2 + 1 + (100 - 100) / 10)
    ∧ ∃ l period, Limiter.ofRate 1.0 2 = .ok l ∧ Duration.ofSeconds? (1.0 / 1.0) = .ok period
        ∧ Budgeted period.nanos 2 ((fresh l 0).log 0 es) := by
  intro es early late
  obtain ⟨hlimit, hrate⟩ := budget_kept 0 es
  constructor
  · obtain ⟨l, hl, hlog⟩ : ∃ l, Limiter.ofRateLimit ⟨2, ⟨20⟩⟩ = .ok l
        ∧ (fresh l 0).log 0 es = early ++ [⟨0, false⟩] ++ late ++ [⟨100, false⟩] :=
      ⟨⟨_, 2, 10, by decide, by decide, by decide⟩, rfl, by decide +kernel +zetaReduce⟩
    have hkept := hlimit _ l hl
    rw [hlog] at hkept
    refine ⟨l, hl, hlog, ?_, ?_⟩
    · exact (hkept [] early _ _ _ (by rw [List.nil_append, List.append_assoc, List.append_assoc]) rfl
        rfl rfl rfl).2.2 rfl
    · exact (hkept (early ++ [⟨0, false⟩]) late _ _ _ rfl rfl rfl rfl rfl).2.1
  · have hsome : (Limiter.ofRate 1.0 2).toOption.isSome := by decide +kernel
    cases hl : Limiter.ofRate 1.0 2 with
    | error e =>
      rw [hl] at hsome
      cases hsome
    | ok l =>
      obtain ⟨period, hseconds, hkept⟩ := hrate 1.0 2 l hl
      exact ⟨l, period, rfl, hseconds, hkept⟩

end Turnstile.Bucket
