import Turnstile.Proofs.Bucket

/-!
# A bucket as a credit of time

A bucket does not count tokens; it remembers when its next take is due. Another way to keep the same
account is a credit in nanoseconds. It is filled at the first take, grows with the time that passes, and
is capped one period above a full bucket; a take is admitted if the credit is worth a period, and costs
one. The later a bucket is due, the less credit there is: the two add up to the present, a full bucket
and a period.

* `Credit.take`: a take on credit.
* `Credit.Matches`: a bucket and a credit that keep the same account; `Credit.Matches.take`, one take.
* `Bucket.takes_fresh`: which of some takes at one instant a fresh bucket admits.
* `Bucket.credit_answers`: in every run a bucket answers as the credit does.
-/

namespace Turnstile

/-- A credit of time for takes that cost a period each. Before the first take none has been counted; after
that it is known what was left at the last take and when that was. -/
structure Credit where
  period : Nat
  burst : Nat
  counted : Option (Nat × Nat) := none

namespace Credit

/-- The credit at an instant. It is that of a full bucket at the first take, whenever that comes. -/
def available (c : Credit) (now : Nat) : Nat :=
  match c.counted with
  | none => c.burst * c.period
  | some (left, last) => min (left + (now - last)) ((c.burst + 1) * c.period)

/-- Takes a period off the credit, if it is worth one; a refused take costs nothing. -/
def take (c : Credit) (now : Nat) : Bool × Credit :=
  if c.period ≤ c.available now then
    (true, { c with counted := some (c.available now - c.period, now) })
  else (false, { c with counted := some (c.available now, now) })

/-- The takes of a run on credit. -/
def log (c : Credit) (now : Nat) (es : List Bucket.Event) : List Bucket.Take :=
  Bucket.logOf take c now es

/-! ## A bucket and its credit -/

/-- A bucket and a credit keep the same account: of one period and burst, both before the first take or
both after it, and then what was left at the last take and the due instant, if it had not passed, make up
that take's instant, a full bucket and a period. -/
structure Matches (now : Nat) (b : Bucket) (c : Credit) : Prop where
  period : c.period = b.limiter.period
  burst : c.burst = b.limiter.burst
  opened : b.opened ≤ now
  unused : b.due? = none → c.counted = none
  used : ∀ d, b.due? = some d → ∃ left last, c.counted = some (left, last) ∧ last ≤ now
    ∧ left + max d last = last + (b.limiter.span + b.limiter.period)

namespace Matches

variable {now : Nat} {b : Bucket} {c : Credit}

theorem later (h : Matches now b c) (nanos : Nat) : Matches (now + nanos) b c := by
  refine ⟨h.period, h.burst, Nat.le_add_right_of_le h.opened, h.unused, ?_⟩
  intro d hd
  obtain ⟨left, last, hc, hlast, hsum⟩ := h.used d hd
  exact ⟨left, last, hc, Nat.le_add_right_of_le hlast, hsum⟩

/-- The cap of a credit is a full bucket and a period. -/
theorem cap (h : Matches now b c) :
    (c.burst + 1) * c.period = b.limiter.span + b.limiter.period := by
  rw [h.period, h.burst, Limiter.span_add_period]

/-- What is available and the due instant, if it has not passed, make up the present, a full bucket and a
period. -/
theorem available_add (h : Matches now b c) :
    c.available now + max (b.due now) now = now + (b.limiter.span + b.limiter.period) := by
  cases hd : b.due? with
  | none =>
    have hfull : c.burst * c.period = b.limiter.span := by
      rw [h.period, h.burst, Limiter.span, Nat.mul_comm]
    simp only [available, h.unused hd, Bucket.due, hd, hfull, Option.getD_none]
    omega
  | some d =>
    obtain ⟨left, last, hc, hlast, hsum⟩ := h.used d hd
    simp only [available, hc, Bucket.due, hd, h.cap, Option.getD_some]
    omega

/-- There is credit for a take exactly if the take does not come more than a full bucket ahead. -/
theorem le_available_iff (h : Matches now b c) :
    c.period ≤ c.available now ↔ ¬now + b.limiter.span < b.due now := by
  have hsum := h.available_add
  have hspan := b.limiter.period_le_span
  rw [h.period]
  omega

/-- A bucket that has not been drawn from refuses no take. -/
theorem due?_ne_none (now : Nat) (b : Bucket) (hr : now + b.limiter.span < b.due now) :
    b.due? ≠ none := by
  intro hn
  have hnow := Bucket.due_of_unused hn now
  have hspan := b.limiter.period_le_span
  omega

/-- After a take the account is kept on from that take's instant. -/
theorem recounted (h : Matches now b c) {d left : Nat} (hd : (b.take now).2.due? = some d)
    (hsum : left + max d now = now + (b.limiter.span + b.limiter.period)) :
    Matches now (b.take now).2 { c with counted := some (left, now) } := by
  constructor
  · rw [Bucket.limiter_take]
    exact h.period
  · rw [Bucket.limiter_take]
    exact h.burst
  · rw [Bucket.opened_take]
    exact h.opened
  · intro hn
    rw [hd] at hn
    cases hn
  · intro d' hd'
    obtain rfl : d = d' := Option.some.inj (hd.symm.trans hd')
    rw [Bucket.limiter_take]
    exact ⟨left, now, rfl, Nat.le_refl now, hsum⟩

/-- **One take**: bucket and credit answer alike and keep the same account. -/
theorem take (h : Matches now b c) :
    (b.take now).1 = (c.take now).1 ∧ Matches now (b.take now).2 (c.take now).2 := by
  have hsum := h.available_add
  have hcredit := h.le_available_iff
  have hfst := Bucket.take_fst h.opened
  have hsnd := Bucket.due?_take h.opened
  unfold Credit.take
  by_cases hr : now + b.limiter.span < b.due now
  · rw [if_pos hr] at hsnd
    rw [if_neg fun hle => hcredit.mp hle hr]
    refine ⟨by simp [hfst, hr], ?_⟩
    obtain ⟨d, hd⟩ := Option.ne_none_iff_exists'.mp (due?_ne_none now b hr)
    rw [Bucket.due_of_due? hd now] at hsum
    exact h.recounted (hsnd.trans hd) hsum
  · rw [if_neg hr] at hsnd
    rw [if_pos (hcredit.mpr hr)]
    refine ⟨by simp [hfst, hr], ?_⟩
    have hworth := hcredit.mpr hr
    have hperiod := h.period
    have hcost : c.available now - c.period + max (max (b.due now) now + b.limiter.period) now
        = now + (b.limiter.span + b.limiter.period) := by
      omega
    exact h.recounted hsnd hcost

/-- **A run**: bucket and credit answer alike. -/
theorem log_eq (h : Matches now b c) (es : List Bucket.Event) : b.log now es = c.log now es :=
  Bucket.logOf_congr (fun nanos h => h.later nanos) (fun h => h.take) h es

end Matches

/-- A fresh bucket has a credit that has not been counted. -/
theorem matches_fresh (l : Limiter) (now : Nat) :
    Matches now (.fresh l now) { period := l.period, burst := l.burst } := by
  refine ⟨rfl, rfl, Nat.le_refl now, fun _ => rfl, ?_⟩
  intro d hd
  cases hd

end Credit

/-! ## Takes at one instant -/

namespace Bucket

/-- Of some takes at one instant the first are admitted, as many as there is credit for, and then no
more. -/
theorem takes_of_due {b : Bucket} {now k : Nat} (ho : b.opened ≤ now)
    (hk : k ≤ b.limiter.burst + 1)
    (hd : b.due now + b.limiter.period * k = now + (b.limiter.span + b.limiter.period)) (n : Nat) :
    (takes now n b).1 = List.replicate (min n k) true ++ List.replicate (n - k) false := by
  induction n generalizing b k with
  | zero => simp [takes]
  | succ n ih =>
    have hfst := take_fst ho
    have hsnd := due?_take ho
    have ho' : (b.take now).2.opened ≤ now := by rw [opened_take]; exact ho
    have hperiod := b.limiter.period_pos
    have hspan : b.limiter.period * (b.limiter.burst + 1) = b.limiter.span + b.limiter.period :=
      Nat.mul_succ ..
    simp only [takes]
    cases k with
    | zero =>
      have hr : now + b.limiter.span < b.due now := by omega
      rw [if_pos hr] at hsnd
      have hsame : (b.take now).2.due now = b.due now := by simp [due, hsnd]
      have hrest := ih ho' (Nat.zero_le _) (by rw [hsame, limiter_take]; exact hd)
      rw [hrest, hfst]
      simp [hr, List.replicate_succ]
    | succ k =>
      have hcost : b.limiter.period * (k + 1) ≤ b.limiter.span + b.limiter.period := by
        rw [← hspan]
        exact Nat.mul_le_mul_left _ hk
      have hr : ¬now + b.limiter.span < b.due now := by
        rw [Nat.mul_succ] at hd
        omega
      rw [if_neg hr] at hsnd
      have hmoved : (b.take now).2.due now = b.due now + b.limiter.period := by
        rw [due, hsnd, Option.getD_some]
        omega
      have hrest := ih ho' (k := k) (by rw [limiter_take]; omega)
        (by rw [hmoved, limiter_take, ← hd, Nat.mul_succ]; omega)
      rw [hrest, hfst]
      simp [hr, List.replicate_succ, Nat.succ_min_succ]

/-- **A bucket is a credit of time.** In every run a limiter that has just been opened answers take by
take as a credit of its period and burst does. In particular, of some takes at one instant, whenever that
is, a fresh limiter admits the first, as many as its burst, and no more. -/
theorem credit_answers (l : Limiter) (opened : Nat) (es : List Event) :
    (fresh l opened).log opened es
        = Credit.log { period := l.period, burst := l.burst } opened es
      ∧ ∀ waited n, (takes (opened + waited) n (fresh l opened)).1
        = List.replicate (min n l.burst) true ++ List.replicate (n - l.burst) false := by
  refine ⟨(Credit.matches_fresh l opened).log_eq es, ?_⟩
  intro waited n
  refine takes_of_due (Nat.le_add_right opened waited) (Nat.le_succ l.burst) ?_ n
  change opened + waited + l.period + l.span = opened + waited + (l.span + l.period)
  omega

end Bucket

end Turnstile
