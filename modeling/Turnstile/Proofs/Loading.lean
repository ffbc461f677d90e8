import Turnstile.Cache

/-!
# Callers that load a key together

Calls for one key may come while a loader is running for it. A call that finds a live value has it. One
that does not starts its loader, unless one is already running; then it waits. When the loader is done,
its value is written, and everyone who waits gets its outcome. Callers may have loaders and times to live
of their own; those of the first that found nothing count.

Until the loader is done only time passes. So what a caller finds is what was there at the start and is
still alive when the caller comes, and a flight is known from who comes when.

* `Flight`: the calls for a key that are under way together; `Flight.land`, what is there when the loader
  is done.
* `Flight.run_eq`: a flight, from who comes when; `Flight.fly`, the one that some steps make of a cache.
* `Flight.fly_of_live`, `Flight.fly_of_missing`: what callers come to where there is a value, and where
  there is none.
* `Flight.load_eq`: callers that come together are one load.
-/

namespace Turnstile

/-! ## A key that has no value -/

/-- What has not run out had not run out before. -/
theorem Kept.alive_of_le {α : Type} {k : Kept α} {now later : Nat} (h : k.alive later = true)
    (hle : now ≤ later) : k.alive now = true := by
  obtain ⟨value, deadline⟩ := k
  cases deadline with
  | none => rfl
  | some d =>
    have hlater : later < d := of_decide_eq_true h
    exact decide_eq_true (Nat.lt_of_le_of_lt hle hlater)

namespace Cache

variable {c : Cache} {key : String}

/-- A value that will be alive is alive. -/
theorem get?_of_wait {value : List UInt8} {nanos : Nat}
    (h : (c.wait nanos).get? key = some value) : c.get? key = some value := by
  rw [get?_eq_some_iff] at h ⊢
  obtain ⟨k, hk, halive, hvalue⟩ := h
  exact ⟨k, hk, Kept.alive_of_le halive (Nat.le_add_right ..), hvalue⟩

/-- So one that is not alive will not be. -/
theorem get?_wait_eq_none (h : c.get? key = none) (nanos : Nat) : (c.wait nanos).get? key = none := by
  cases hlater : (c.wait nanos).get? key with
  | none => rfl
  | some value =>
    rw [get?_of_wait hlater] at h
    cases h

end Cache

/-! ## Calls under way -/

/-- A call for the value under a key, with the loader that it brings and the time to live of what that
yields. -/
structure LoadCall where
  ttl : Duration
  loader : Except String (List UInt8)

/-- What callers get who wait for the loader of a call. -/
def LoadCall.outcome (key : String) (call : LoadCall) : Except String (List UInt8) :=
  match call.loader with
  | .ok value => .ok value
  | .error reason => .error (Cache.loadFailure key reason)

/-- A call comes, or time passes. -/
inductive FlightStep where
  | come (call : LoadCall)
  | wait (nanos : Nat)

/-- A call that comes after some time. -/
structure Coming where
  after : Nat
  call : LoadCall

namespace FlightStep

/-- The calls that come in some steps, in their order. -/
def comings : List FlightStep → List Coming
  | [] => []
  | .come call :: steps => ⟨0, call⟩ :: comings steps
  | .wait nanos :: steps => (comings steps).map fun a => { a with after := nanos + a.after }

/-- The time that passes in some steps. -/
def elapsed : List FlightStep → Nat
  | [] => 0
  | .come _ :: steps => elapsed steps
  | .wait nanos :: steps => nanos + elapsed steps

/-- The calls that find nothing under a key of a cache. -/
def unserved (key : String) (c : Cache) (steps : List FlightStep) : List Coming :=
  (comings steps).filter fun a => ((c.wait a.after).get? key).isNone

theorem after_le_elapsed {steps : List FlightStep} {a : Coming} (h : a ∈ comings steps) :
    a.after ≤ elapsed steps := by
  induction steps generalizing a with
  | nil => cases h
  | cons s steps ih =>
    cases s with
    | come call =>
      rcases List.mem_cons.mp h with rfl | hrest
      · exact Nat.zero_le _
      · exact ih hrest
    | wait nanos =>
      obtain ⟨b, hb, rfl⟩ := List.mem_map.mp h
      exact Nat.add_le_add_left (ih hb) nanos

end FlightStep

open FlightStep

/-- Calls for one key that are under way together: the call whose loader is running, how many loaders
have been started, and what each caller has found on coming. Who has found nothing waits for the
loader. -/
structure Flight where
  cache : Cache
  leader : Option LoadCall := none
  runs : Nat := 0
  found : List (Option (List UInt8)) := []

namespace Flight

/-- A step: a caller has the live value, or waits for the loader, and starts its own if none is
running. -/
def step (key : String) (f : Flight) : FlightStep → Flight
  | .wait nanos => { f with cache := f.cache.wait nanos }
  | .come call =>
    match f.cache.get? key with
    | some value => { f with found := f.found ++ [some value] }
    | none =>
      match f.leader with
      | some _ => { f with found := f.found ++ [none] }
      | none => { f with found := f.found ++ [none], leader := some call, runs := f.runs + 1 }

/-- Some steps in their order. -/
def run (key : String) (f : Flight) (steps : List FlightStep) : Flight := steps.foldl (step key) f

/-- The loader is done: what it has yielded is written, and if it has failed, nothing is. -/
def land (key : String) (f : Flight) : Cache :=
  match f.leader with
  | none => f.cache
  | some call =>
    match call.loader with
    | .ok value => f.cache.insert key value call.ttl
    | .error _ => f.cache

/-- What the callers have got when the loader is done: what they found, or the outcome of the loader. -/
def answers (key : String) (f : Flight) : List (Option (Except String (List UInt8))) :=
  f.found.map fun value => (value.map .ok).or (f.leader.map (LoadCall.outcome key))

variable {key : String} {f : Flight}

@[simp] theorem run_cons (s : FlightStep) (steps : List FlightStep) :
    run key f (s :: steps) = run key (step key f s) steps := rfl

/-- **A flight, from who comes when.** Everyone finds what is alive then, and the first who finds nothing
starts a loader unless one is running. -/
theorem run_eq (steps : List FlightStep) :
    run key f steps
      = { cache := f.cache.wait (elapsed steps)
          leader := f.leader.or ((unserved key f.cache steps).head?.map Coming.call)
          runs := f.runs + if f.leader.isSome then 0 else min 1 (unserved key f.cache steps).length
          found := f.found ++ (comings steps).map fun a => (f.cache.wait a.after).get? key } := by
  induction steps generalizing f with
  | nil => simp [run, unserved, comings, elapsed, Cache.wait, Store.wait]
  | cons s steps ih =>
    rw [run_cons, ih]
    cases s with
    | wait nanos =>
      -- the later calls come later by what has passed
      have hunserved : unserved key f.cache (.wait nanos :: steps)
          = (unserved key (f.cache.wait nanos) steps).map
              fun a => { a with after := nanos + a.after } := by
        simp only [unserved, comings, List.filter_map, Function.comp_def, Cache.wait_wait]
      cases hl : f.leader <;> simp [step, hunserved, comings, elapsed, hl, Function.comp_def]
    | come call =>
      have hnow : f.cache.wait 0 = f.cache := rfl
      cases hv : f.cache.get? key with
      | some value => simp [step, unserved, comings, elapsed, hnow, hv]
      | none =>
        cases hl : f.leader with
        | some leader => simp [step, unserved, comings, elapsed, hnow, hv, hl]
        | none => simp [step, unserved, comings, elapsed, hnow, hv, hl]

/-! ## Flights of a cache -/

variable {c : Cache}

/-- The flight that some steps make of a cache. -/
def fly (key : String) (c : Cache) (steps : List FlightStep) : Flight := run key { cache := c } steps

theorem fly_eq (key : String) (c : Cache) (steps : List FlightStep) :
    fly key c steps
      = { cache := c.wait (elapsed steps)
          leader := (unserved key c steps).head?.map Coming.call
          runs := min 1 (unserved key c steps).length
          found := (comings steps).map fun a => (c.wait a.after).get? key } := by
  simp [fly, run_eq]

theorem cache_fly (key : String) (c : Cache) (steps : List FlightStep) :
    (fly key c steps).cache = c.wait (elapsed steps) := by
  rw [fly_eq]

/-- The one outcome that everyone gets who finds nothing: that of the first of them. -/
def outcome? (key : String) (c : Cache) (steps : List FlightStep) :
    Option (Except String (List UInt8)) :=
  (unserved key c steps).head?.map fun first => first.call.outcome key

/-- Everyone gets what is alive on coming, or else that outcome. -/
theorem answers_fly (key : String) (c : Cache) (steps : List FlightStep) :
    (fly key c steps).answers key
      = (comings steps).map fun a =>
          (((c.wait a.after).get? key).map .ok).or (outcome? key c steps) := by
  simp [answers, fly_eq, outcome?, Function.comp_def]

/-- While there is a value, everyone finds it. -/
theorem get?_of_coming {steps : List FlightStep} {value : List UInt8}
    (hv : (c.wait (elapsed steps)).get? key = some value) {a : Coming} (ha : a ∈ comings steps) :
    (c.wait a.after).get? key = some value := by
  have hlater : c.wait (elapsed steps) = (c.wait a.after).wait (elapsed steps - a.after) := by
    rw [Cache.wait_wait, Nat.add_sub_cancel' (after_le_elapsed ha)]
  rw [hlater] at hv
  exact Cache.get?_of_wait hv

/-- Where there is none at first, no one finds one. -/
theorem unserved_of_missing (steps : List FlightStep) (hn : c.get? key = none) :
    unserved key c steps = comings steps := by
  refine List.filter_eq_self.mpr fun a _ => ?_
  rw [Cache.get?_wait_eq_none hn]
  rfl

/-- **Nobody goes without an answer.** -/
theorem none_notMem_answers (key : String) (c : Cache) (steps : List FlightStep) :
    none ∉ (fly key c steps).answers key := by
  rw [answers_fly, List.mem_map]
  rintro ⟨a, ha, hnone⟩
  rw [Option.or_eq_none_iff, Option.map_eq_none_iff] at hnone
  obtain ⟨hfound, houtcome⟩ := hnone
  -- a caller who finds nothing is unserved, so there is a first of these
  have hunserved : a ∈ unserved key c steps :=
    List.mem_filter.mpr ⟨ha, by rw [hfound]; rfl⟩
  rw [outcome?, Option.map_eq_none_iff, List.head?_eq_none_iff] at houtcome
  rw [houtcome] at hunserved
  cases hunserved

/-- **While there is a value**, everyone has it, no loader runs, and no entry changes. -/
theorem fly_of_live {steps : List FlightStep} {value : List UInt8}
    (hv : (c.wait (elapsed steps)).get? key = some value) :
    (fly key c steps).runs = 0
      ∧ (fly key c steps).answers key = List.replicate (comings steps).length (some (.ok value))
      ∧ (fly key c steps).land key = c.wait (elapsed steps) := by
  have hserved : unserved key c steps = [] := by
    refine List.filter_eq_nil_iff.mpr fun a ha => ?_
    simp [get?_of_coming hv ha]
  refine ⟨by simp [fly_eq, hserved], ?_, by simp [fly_eq, land, hserved]⟩
  rw [answers_fly, ← List.map_const']
  refine List.map_congr_left fun a ha => ?_
  simp [get?_of_coming hv ha]

/-- **Where there is none**, one loader runs, that of the first caller, and everyone has its outcome. -/
theorem fly_of_missing {steps : List FlightStep} (hn : c.get? key = none) {first : Coming}
    {others : List Coming} (hcomings : comings steps = first :: others) :
    (fly key c steps).runs = 1
      ∧ (fly key c steps).answers key
        = List.replicate (comings steps).length (some (first.call.outcome key))
      ∧ (fly key c steps).land key
        = match first.call.loader with
          | .ok value => (c.wait (elapsed steps)).insert key value first.call.ttl
          | .error _ => c.wait (elapsed steps) := by
  have hunserved : unserved key c steps = first :: others :=
    (unserved_of_missing steps hn).trans hcomings
  refine ⟨by simp [fly_eq, hunserved], ?_, by simp [fly_eq, land, hunserved]⟩
  rw [answers_fly, ← List.map_const']
  refine List.map_congr_left fun a _ => ?_
  simp [Cache.get?_wait_eq_none hn, outcome?, hunserved]

/-- **A failed load leaves every key as it was.** -/
theorem land_of_failed {steps : List FlightStep} {reason : String}
    (h : outcome? key c steps = some (.error reason)) :
    (fly key c steps).land key = c.wait (elapsed steps) := by
  obtain ⟨first, hfirst, houtcome⟩ := Option.map_eq_some_iff.mp h
  cases hloader : first.call.loader with
  | ok value => simp [LoadCall.outcome, hloader] at houtcome
  | error _ => simp [fly_eq, land, hfirst, hloader]

/-- **Callers that come together are one load**, with the loader and the time to live of the first, at
the time at which the loader is done; unless the value under the key expires meanwhile. -/
theorem load_eq {steps : List FlightStep} {first : Coming} {others : List Coming}
    (hcomings : comings steps = first :: others)
    (hlives : (c.wait (elapsed steps)).get? key = c.get? key) :
    ∃ result,
      (c.wait (elapsed steps)).load key first.call.ttl (comings steps).length first.call.loader
          = (⟨(fly key c steps).runs, result⟩, (fly key c steps).land key)
        ∧ (fly key c steps).answers key = List.replicate (comings steps).length (some result) := by
  have hsome : (comings steps).length ≠ 0 := by simp [hcomings]
  cases hv : c.get? key with
  | some value =>
    rw [hv] at hlives
    obtain ⟨hruns, hanswers, hland⟩ := fly_of_live hlives
    exact ⟨.ok value, by rw [Cache.load_of_live hlives, hruns, hland], hanswers⟩
  | none =>
    rw [hv] at hlives
    obtain ⟨hruns, hanswers, hland⟩ := fly_of_missing hv hcomings
    refine ⟨first.call.outcome key, ?_, hanswers⟩
    rw [hruns, hland, Cache.load_of_missing hlives _ hsome]
    cases hloader : first.call.loader <;> simp only [LoadCall.outcome, hloader]

end Flight

end Turnstile
