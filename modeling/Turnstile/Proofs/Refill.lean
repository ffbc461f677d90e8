import Turnstile.Proofs.Bucket

/-!
# What waiting gives back

An admitted take leaves a bucket due no later than a full bucket and a period from its own instant, and
a refused one leaves it as it is. So the due instant is never far ahead of the last admitted take: the
numbers of a take stay close to the clock, and for each period that has passed since then the bucket has
a token to give, up to a full bucket.

* `Bucket.run`: the bucket and the instant that a run ends with; `Bucket.lastAdmitted?`, the instant of
  the last admitted take of a log.
* `Bucket.Settled`: how far ahead of the last admitted take a bucket is due; `Settled.run`, that every
  run keeps to it.
* `Bucket.take?`: a take whose numbers have to stay below a bound.
* `Bucket.waiting_restores`: what holds of every limiter after every run.
-/

namespace Turnstile.Bucket

/-! ## The end of a run -/

/-- The bucket and the instant that a run ends with. -/
def run (b : Bucket) (now : Nat) : List Event → Bucket × Nat
  | [] => (b, now)
  | .wait nanos :: es => b.run (now + nanos) es
  | .take :: es => (b.take now).2.run now es

/-- The instant of the last admitted take of a log. -/
def lastAdmitted? (takes : List Take) : Option Nat :=
  ((takes.filter Take.allowed).getLast?).map Take.instant

@[simp] theorem limiter_run (b : Bucket) (now : Nat) (es : List Event) :
    (b.run now es).1.limiter = b.limiter := by
  induction es generalizing b now with
  | nil => rfl
  | cons e es ih =>
    cases e with
    | wait nanos => exact ih b (now + nanos)
    | take => exact (ih _ now).trans (limiter_take b now)

@[simp] theorem opened_run (b : Bucket) (now : Nat) (es : List Event) :
    (b.run now es).1.opened = b.opened := by
  induction es generalizing b now with
  | nil => rfl
  | cons e es ih =>
    cases e with
    | wait nanos => exact ih b (now + nanos)
    | take => exact (ih _ now).trans (opened_take b now)

/-- A take at the front of a log counts if none after it is admitted. -/
theorem lastAdmitted?_cons_or (x : Take) (takes : List Take) (last : Option Nat) :
    (lastAdmitted? (x :: takes)).or last
      = (lastAdmitted? takes).or (if x.allowed then some x.instant else last) := by
  unfold lastAdmitted?
  cases hx : x.allowed with
  | false => simp [hx]
  | true =>
    rw [List.filter_cons_of_pos hx, List.getLast?_cons]
    cases (takes.filter Take.allowed).getLast? <;> rfl

/-! ## How far ahead a bucket is due -/

/-- A bucket has not been drawn from, or is due no later than a full bucket and a period after the last
admitted take. -/
structure Settled (now : Nat) (b : Bucket) (last : Option Nat) : Prop where
  opened : b.opened ≤ now
  unused : last = none → b.due? = none
  used : ∀ s, last = some s → b.opened ≤ s ∧ s ≤ now
    ∧ ∃ d, b.due? = some d ∧ d ≤ s + (b.limiter.span + b.limiter.period)

theorem settled_fresh (l : Limiter) (now : Nat) : Settled now (fresh l now) none := by
  refine ⟨Nat.le_refl now, fun _ => rfl, ?_⟩
  intro s hs
  cases hs

namespace Settled

variable {now : Nat} {b : Bucket} {last : Option Nat}

theorem later (h : Settled now b last) (nanos : Nat) : Settled (now + nanos) b last := by
  refine ⟨Nat.le_add_right_of_le h.opened, h.unused, ?_⟩
  intro s hs
  obtain ⟨ho, hle, hd⟩ := h.used s hs
  exact ⟨ho, Nat.le_add_right_of_le hle, hd⟩

/-- **One take**: an admitted one is the last from then on. -/
theorem take (h : Settled now b last) :
    Settled now (b.take now).2 (if (b.take now).1 then some now else last) := by
  cases ha : (b.take now).1 with
  | false =>
    rw [take_snd_of_refused ha]
    exact h
  | true =>
    have hdue := due_le_of_allowed h.opened ha
    refine ⟨by rw [opened_take]; exact h.opened, fun hn => (by cases hn), ?_⟩
    intro s hs
    obtain rfl : now = s := Option.some.inj hs
    rw [opened_take, limiter_take]
    exact ⟨h.opened, Nat.le_refl now, _, due?_of_allowed h.opened ha, by omega⟩

/-- **A run**: the last admitted take is the last one of the run, if the run has any. -/
theorem run (h : Settled now b last) (es : List Event) :
    Settled (b.run now es).2 (b.run now es).1 ((lastAdmitted? (b.log now es)).or last) := by
  induction es generalizing now b last with
  | nil => exact h
  | cons e es ih =>
    cases e with
    | wait nanos => exact ih (h.later nanos)
    | take =>
      have hrun := ih h.take
      rw [← lastAdmitted?_cons_or ⟨now, (b.take now).1⟩] at hrun
      exact hrun

/-- The due instant that a take is held against is no later than a full bucket and a period from now. -/
theorem due_le (h : Settled now b last) : b.due now ≤ now + (b.limiter.span + b.limiter.period) := by
  cases last with
  | none =>
    have hn := due_of_unused (h.unused rfl) now
    omega
  | some s =>
    obtain ⟨-, hs, d, hd, hle⟩ := h.used s rfl
    rw [due_of_due? hd]
    omega

/-- The stored arrival time, on the bucket's own clock. -/
theorem arrival_le (h : Settled now b last) {a : Nat} (ha : b.arrival = some a) :
    ∃ s, last = some s ∧ b.opened ≤ s ∧ s ≤ now
      ∧ a ≤ s - b.opened + (b.limiter.span + b.limiter.period) := by
  have hdue : b.due? = some (a + b.opened) := by simp [due?, ha]
  cases last with
  | none =>
    rw [h.unused rfl] at hdue
    cases hdue
  | some s =>
    obtain ⟨ho, hs, d, hd, hle⟩ := h.used s rfl
    obtain rfl := Option.some.inj (hd.symm.trans hdue)
    exact ⟨s, rfl, ho, hs, by omega⟩

end Settled

/-! ## Takes on bounded numbers -/

/-- A number, if it is below a bound. -/
def below? (bound n : Nat) : Option Nat := if n < bound then some n else none

theorem below?_of_lt {bound n : Nat} (h : n < bound) : below? bound n = some n := if_pos h

/-- Takes a token, where every number on the way has to stay below a bound. -/
def take? (bound : Nat) (b : Bucket) (now : Nat) : Option (Bool × Bucket) := do
  let t ← below? bound (now - b.opened)
  let expected ← below? bound (b.expected t)
  let earliest ← below? bound (expected - b.limiter.span)
  if t < earliest then return (false, b)
  let arrival ← below? bound (max expected t + b.limiter.period)
  return (true, { b with arrival := some arrival })

/-- A take meets no number greater than the instant of its clock with a full bucket and a period. -/
theorem Settled.take?_eq {now : Nat} {b : Bucket} {last : Option Nat} (h : Settled now b last)
    {bound : Nat} (hbound : now - b.opened + (b.limiter.span + b.limiter.period) < bound) :
    b.take? bound now = some (b.take now) := by
  have ho := h.opened
  have hdue := h.due_le
  rw [← expected_add_opened ho] at hdue
  have hexpected :
      b.expected (now - b.opened) ≤ now - b.opened + (b.limiter.span + b.limiter.period) := by
    omega
  unfold take? Bucket.take
  simp only [below?_of_lt (show now - b.opened < bound by omega),
    below?_of_lt (show b.expected (now - b.opened) < bound by omega),
    below?_of_lt (show b.expected (now - b.opened) - b.limiter.span < bound by omega),
    Option.bind_eq_bind, Option.bind_some]
  split
  · rfl
  · rename_i hr
    rw [below?_of_lt (by omega)]
    rfl

/-! ## Takes after waiting -/

/-- Takes at one instant are all admitted where a full bucket and a period leave room for them. -/
theorem takes_of_room {b : Bucket} {now k : Nat} (ho : b.opened ≤ now)
    (hroom : max (b.due now) now + b.limiter.period * k
      ≤ now + (b.limiter.span + b.limiter.period)) :
    (takes now k b).1 = List.replicate k true := by
  induction k generalizing b with
  | zero => rfl
  | succ k ih =>
    rw [Nat.mul_succ] at hroom
    have hadmitted : (b.take now).1 = true := by
      rw [take_fst ho, decide_eq_false (by omega)]
      rfl
    have hmoved := due_of_due? (due?_of_allowed ho hadmitted) now
    have hrest := ih (b := (b.take now).2) (by rw [opened_take]; exact ho)
      (by rw [hmoved, limiter_take]; omega)
    simp only [takes, hrest, hadmitted, List.replicate_succ]

/-- A token comes back with every period after the last admitted take, up to a full bucket. -/
theorem Settled.takes_eq {now : Nat} {b : Bucket} {last : Option Nat} (h : Settled now b last)
    {k : Nat} (hk : k ≤ b.limiter.burst)
    (hwaited : ∀ s, last = some s → s + k * b.limiter.period ≤ now) :
    (takes now k b).1 = List.replicate k true := by
  have hspan : b.limiter.period * k ≤ b.limiter.span := Nat.mul_le_mul_left _ hk
  refine takes_of_room h.opened ?_
  cases last with
  | none =>
    have hn := due_of_unused (h.unused rfl) now
    omega
  | some s =>
    obtain ⟨-, -, d, hd, hle⟩ := h.used s rfl
    have hs := hwaited s rfl
    rw [Nat.mul_comm] at hs
    rw [due_of_due? hd]
    omega

/-! ## The main statement -/

/-- **Waiting gives tokens back, and the numbers of the clock stay in range.** For every limiter and every
run from when it is opened, in the state and at the instant that the run ends with:
* a refused take changes nothing;
* the stored arrival time, counted from the opening as the bucket counts it, is no later than a full
  bucket and a period after the last admitted take;
* no number that a take meets is greater than the instant of its clock with a full bucket and a period.
  So none needs more than 64 bits where this does not;
* if some periods have passed since the last admitted take, no more than a full bucket, as many takes are
  admitted at once;
* a limiter made from a rate limit that has been left alone for the limit's window admits the limit's
  number of requests at once. -/
theorem waiting_restores (l : Limiter) (opened : Nat) (es : List Event) :
    let b := ((fresh l opened).run opened es).1
    let now := ((fresh l opened).run opened es).2
    let last := lastAdmitted? ((fresh l opened).log opened es)
    ((b.take now).1 = false → (b.take now).2 = b)
    ∧ (∀ a, b.arrival = some a →
        ∃ s, last = some s ∧ opened ≤ s ∧ s ≤ now ∧ a ≤ s - opened + (l.burst + 1) * l.period)
    ∧ (∀ bound, now - opened + (l.burst + 1) * l.period < bound →
        b.take? bound now = some (b.take now))
    ∧ (∀ k ≤ l.burst, (∀ s, last = some s → s + k * l.period ≤ now) →
        (takes now k b).1 = List.replicate k true)
    ∧ ∀ r waited, Limiter.ofRateLimit r = .ok l → r.window.nanos ≤ waited →
        (takes (now + waited) r.rate b).1 = List.replicate r.rate true := by
  intro b now last
  have hsettled : Settled now b last := by
    simpa using (settled_fresh l opened).run es
  have hlimiter : b.limiter = l := limiter_run _ _ es
  have hopened : b.opened = opened := opened_run _ _ es
  have hcap : (l.burst + 1) * l.period = b.limiter.span + b.limiter.period := by
    rw [hlimiter, Limiter.span_add_period]
  rw [hcap, ← hopened]
  refine ⟨take_snd_of_refused, fun a ha => hsettled.arrival_le ha,
    fun bound hbound => hsettled.take?_eq hbound, ?_, ?_⟩
  · intro k hk hwaited
    exact hsettled.takes_eq (hlimiter ▸ hk) (by rw [hlimiter]; exact hwaited)
  · intro r waited hr hwindow
    obtain ⟨hperiod, hburst⟩ := Limiter.terms_ofRateLimit hr
    have hwhole : r.rate * b.limiter.period ≤ r.window.nanos := by
      rw [hlimiter, hperiod]
      exact Nat.mul_div_le r.window.nanos r.rate
    have hfull : r.rate = b.limiter.burst := by rw [hlimiter, hburst]
    refine (hsettled.later waited).takes_eq (Nat.le_of_eq hfull) ?_
    intro s hs
    obtain ⟨-, hle, -⟩ := hsettled.used s hs
    omega

/-- Two requests in twenty nanoseconds. After an idle spell three takes are admitted at once, and leave
the bucket due as late as it can be; two periods later, which are a window, two more are, and no
third. -/
theorem waiting_restores_after_idle_spell :
    let es : List Event :=
      [.take, .take, .take, .wait 100, .take, .take, .take, .take, .wait 20]
    ∃ l, Limiter.ofRateLimit ⟨2, ⟨20⟩⟩ = .ok l
      ∧ lastAdmitted? ((fresh l 0).log 0 es) = some 100
      ∧ ((fresh l 0).run 0 es).1.arrival = some 130
      ∧ 130 ≤ 100 - 0 + (2 + 1) * 10
      ∧ ((fresh l 0).run 0 es).1.take? Word.bound64 120 = some (((fresh l 0).run 0 es).1.take 120)
      ∧ (takes 120 2 ((fresh l 0).run 0 es).1).1 = [true, true]
      ∧ (takes 120 3 ((fresh l 0).run 0 es).1).1 = [true, true, false]
      ∧ (takes (120 + 20) 2 ((fresh l 0).run 0 es).1).1 = [true, true] := by
  intro es
  obtain ⟨l, hl, hlog, hend, harrival, hperiod, hburst, hthird⟩ :
      ∃ l, Limiter.ofRateLimit ⟨2, ⟨20⟩⟩ = .ok l
        ∧ lastAdmitted? ((fresh l 0).log 0 es) = some 100 ∧ ((fresh l 0).run 0 es).2 = 120
        ∧ ((fresh l 0).run 0 es).1.arrival = some 130 ∧ l.period = 10 ∧ l.burst = 2
        ∧ (takes 120 3 ((fresh l 0).run 0 es).1).1 = [true, true, false] :=
    ⟨⟨_, 2, 10, by decide, by decide, by decide⟩, rfl, by decide +kernel +zetaReduce, rfl,
      by decide +kernel +zetaReduce, rfl, rfl, by decide +kernel +zetaReduce⟩
  obtain ⟨-, hbound, hrange, hperiods, hwindow⟩ := waiting_restores l 0 es
  rw [hlog, hburst, hperiod] at hbound
  rw [hend, hburst, hperiod] at hrange
  rw [hlog, hend, hburst, hperiod] at hperiods
  rw [hend] at hwindow
  obtain ⟨s, hs, -, -, hle⟩ := hbound 130 harrival
  obtain rfl := Option.some.inj hs
  refine ⟨l, hl, hlog, harrival, hle, hrange Word.bound64 (by decide), ?_, hthird,
    hwindow ⟨2, ⟨20⟩⟩ 20 hl (Nat.le_refl 20)⟩
  exact hperiods 2 (Nat.le_refl 2) (by rintro s hs; cases hs; decide)

end Turnstile.Bucket
