import Turnstile.Limiter

/-!
# Buckets in use

A bucket counts its time from the instant at which it was opened, and cuts differences off at zero. On
the clock that all buckets share, neither shows: what a bucket does is settled by its limiter and by the
instant at which the next request is due, and two buckets that agree in these answer alike from then on,
whenever they were opened.

* `Bucket.due?`: when the next request is due, on the shared clock.
* `Bucket.take_fst`, `Bucket.due?_take`: a take in terms of it.
* `Bucket.Alike.take`: buckets of one limiter and one due instant answer alike and stay so.
* `Bucket.log`: the takes of a run with their answers.
-/

namespace Turnstile.Bucket

/-- The instant on the shared clock at which the next request is due, once there has been one. -/
def due? (b : Bucket) : Option Nat := b.arrival.map (· + b.opened)

/-- The due instant that a request is held against. A bucket without requests expects one a period
late. -/
def due (b : Bucket) (now : Nat) : Nat := b.due?.getD (now + b.limiter.period)

theorem due_of_due? {b : Bucket} {d : Nat} (h : b.due? = some d) (now : Nat) : b.due now = d := by
  rw [due, h, Option.getD_some]

theorem due_of_unused {b : Bucket} (h : b.due? = none) (now : Nat) :
    b.due now = now + b.limiter.period := by
  rw [due, h, Option.getD_none]

@[simp] theorem limiter_fresh (l : Limiter) (now : Nat) : (fresh l now).limiter = l := rfl

@[simp] theorem limiter_take (b : Bucket) (now : Nat) : (b.take now).2.limiter = b.limiter := by
  simp only [take]
  split <;> rfl

@[simp] theorem opened_take (b : Bucket) (now : Nat) : (b.take now).2.opened = b.opened := by
  simp only [take]
  split <;> rfl

theorem expected_add_opened {b : Bucket} {now : Nat} (h : b.opened ≤ now) :
    b.expected (now - b.opened) + b.opened = b.due now := by
  unfold expected due due?
  cases b.arrival with
  | none => simp only [Option.getD_none, Option.map_none]; omega
  | some a => rfl

/-- The test of a take, on the shared clock. Cutting the difference off at zero changes nothing, as no
instant is before the opening. -/
theorem refuses_iff {b : Bucket} {now : Nat} (h : b.opened ≤ now) :
    now - b.opened < b.expected (now - b.opened) - b.limiter.span
      ↔ now + b.limiter.span < b.due now := by
  have hd := expected_add_opened h
  omega

/-- A take is admitted unless it comes more than a full bucket ahead of the due instant. -/
theorem take_fst {b : Bucket} {now : Nat} (h : b.opened ≤ now) :
    (b.take now).1 = !decide (now + b.limiter.span < b.due now) := by
  simp only [take]
  by_cases hr : now + b.limiter.span < b.due now
  · rw [if_pos ((refuses_iff h).mpr hr)]
    simp [hr]
  · rw [if_neg fun hc => hr ((refuses_iff h).mp hc)]
    simp [hr]

/-- A refused take leaves the due instant; an admitted one moves it on by a period, from now if it has
passed. -/
theorem due?_take {b : Bucket} {now : Nat} (h : b.opened ≤ now) :
    (b.take now).2.due? = if now + b.limiter.span < b.due now then b.due?
      else some (max (b.due now) now + b.limiter.period) := by
  simp only [take]
  by_cases hr : now + b.limiter.span < b.due now
  · rw [if_pos ((refuses_iff h).mpr hr), if_pos hr]
  · rw [if_neg fun hc => hr ((refuses_iff h).mp hc), if_neg hr]
    have hd := expected_add_opened h
    simp only [due?, Option.map_some, Option.some.injEq]
    omega

/-- A refused take changes nothing. -/
theorem take_snd_of_refused {b : Bucket} {now : Nat} (h : (b.take now).1 = false) :
    (b.take now).2 = b := by
  simp only [take] at h ⊢
  split
  · rfl
  · rename_i hn
    rw [if_neg hn] at h
    cases h

/-- An admitted take does not come more than a full bucket ahead of the due instant. -/
theorem due_le_of_allowed {b : Bucket} {now : Nat} (ho : b.opened ≤ now)
    (ha : (b.take now).1 = true) : b.due now ≤ now + b.limiter.span := by
  rw [take_fst ho] at ha
  simpa using ha

/-- An admitted take moves the due instant on by a period. -/
theorem due?_of_allowed {b : Bucket} {now : Nat} (ho : b.opened ≤ now)
    (ha : (b.take now).1 = true) :
    (b.take now).2.due? = some (max (b.due now) now + b.limiter.period) := by
  have hdue := due_le_of_allowed ho ha
  rw [due?_take ho, if_neg (by omega)]

/-! ## Buckets that answer alike -/

/-- One limiter and one due instant: the buckets differ at most in when they were opened. -/
def Alike (b b' : Bucket) : Prop := b.limiter = b'.limiter ∧ b.due? = b'.due?

theorem Alike.due_eq {b b' : Bucket} (h : Alike b b') (now : Nat) : b.due now = b'.due now := by
  unfold due
  rw [h.1, h.2]

/-- Buckets that are alike answer a take alike and stay alike. -/
theorem Alike.take {b b' : Bucket} (h : Alike b b') {now : Nat} (ho : b.opened ≤ now)
    (ho' : b'.opened ≤ now) :
    (b.take now).1 = (b'.take now).1 ∧ Alike (b.take now).2 (b'.take now).2 := by
  have hd := h.due_eq now
  refine ⟨?_, ?_, ?_⟩
  · rw [take_fst ho, take_fst ho', hd, h.1]
  · rw [limiter_take, limiter_take, h.1]
  · rw [due?_take ho, due?_take ho', hd, h.1, h.2]

/-! ## A bucket on its own -/

/-- Which of the requests at some instants a bucket admits. -/
def answers (b : Bucket) : List Nat → List Bool
  | [] => []
  | now :: later => (b.take now).1 :: (b.take now).2.answers later

@[simp] theorem answers_cons (b : Bucket) (now : Nat) (later : List Nat) :
    b.answers (now :: later) = (b.take now).1 :: (b.take now).2.answers later := rfl

/-! ## Runs of a bucket -/

/-- What happens to a bucket: time passes, or a token is asked for. -/
inductive Event where
  | wait (nanos : Nat)
  | take

/-- A take and its answer. -/
structure Take where
  instant : Nat
  allowed : Bool
  deriving DecidableEq

/-- The takes of a run with their answers, from an instant on, where `take` says what a take does. -/
def logOf {β : Type} (take : β → Nat → Bool × β) (b : β) (now : Nat) : List Event → List Take
  | [] => []
  | .wait nanos :: es => logOf take b (now + nanos) es
  | .take :: es => ⟨now, (take b now).1⟩ :: logOf take (take b now).2 now es

/-- The takes of a run of a bucket. -/
def log (b : Bucket) (now : Nat) (es : List Event) : List Take := logOf take b now es

/-- Two ways to take go together in every run, where they answer alike and waiting and taking keep
them together. -/
theorem logOf_congr {β γ : Type} {take : β → Nat → Bool × β} {take' : γ → Nat → Bool × γ}
    {Together : Nat → β → γ → Prop}
    (hwait : ∀ {now b c} nanos, Together now b c → Together (now + nanos) b c)
    (htake : ∀ {now b c}, Together now b c →
      (take b now).1 = (take' c now).1 ∧ Together now (take b now).2 (take' c now).2)
    {now : Nat} {b : β} {c : γ} (h : Together now b c) (es : List Event) :
    logOf take b now es = logOf take' c now es := by
  induction es generalizing now b c with
  | nil => rfl
  | cons e es ih =>
    cases e with
    | wait nanos => exact ih (hwait nanos h)
    | take =>
      obtain ⟨hanswer, hnext⟩ := htake h
      simp only [logOf, hanswer, ih hnext]

end Turnstile.Bucket
