import Turnstile.Proofs.Containment

/-!
# How requests come in and results go out

On its way in a request is passed from gate to gate, until one of them answers it or it arrives at the
inner end of the lane. From there the result goes out by the gates that it came by. A lane does nothing
else: where a request arrives, the lane is a way out around whatever is inside; where it does not, what
is inside makes no difference.

* `Gate.arrival?`: what a request is where it arrives, and in which state.
* `Gate.Along`: all gates on the way pass the request on in some manner.
* `Gate.Hands`: what each gate does with a request that it passes on.
* `Gate.Outward`: what a gate makes of results on the way out.
* `Gate.run_of_arrival`, `Gate.run_of_no_arrival`: a lane in terms of them.
-/

namespace Turnstile.Gate

variable {σ ν ρ : Type}

/-! ## The way in -/

/-- What a request is, and in which state, at the inner end of a lane, if every gate passes it on. -/
def arrival? (m : Method) : List (Gate σ ν ρ) → Request Payload → Pipeline.State σ ν →
    Option (Request Payload × Pipeline.State σ ν)
  | [], r, st => some (r, st)
  | gate :: lane, r, st =>
    match (gate.layer m).enter r st with
    | (.answered _, _) => none
    | (.passed r _, st) => arrival? m lane r st

/-- Every gate that a request comes to and that passes it on does so in some manner. -/
def Along (P : Gate σ ν ρ → Request Payload → Request Payload → Prop) (m : Method) :
    List (Gate σ ν ρ) → Request Payload → Pipeline.State σ ν → Prop
  | [], _, _ => True
  | gate :: lane, r, st =>
    match (gate.layer m).enter r st with
    | (.answered _, _) => True
    | (.passed r' _, st') => P gate r r' ∧ Along P m lane r' st'

section

variable {m : Method} {gate : Gate σ ν ρ} {lane xs ys : List (Gate σ ν ρ)} {r r' r₁ : Request Payload}
  {st st' st₁ : Pipeline.State σ ν} {leave : Outcome ρ → StateM (Pipeline.State σ ν) (Outcome ρ)}
  {P : Gate σ ν ρ → Request Payload → Request Payload → Prop}

theorem arrival?_of_passed (he : (gate.layer m).enter r st = (.passed r₁ leave, st₁)) :
    arrival? m (gate :: lane) r st = arrival? m lane r₁ st₁ := by
  rw [arrival?, he]

theorem arrival?_of_answered {outcome : Outcome ρ}
    (he : (gate.layer m).enter r st = (.answered outcome, st₁)) :
    arrival? m (gate :: lane) r st = none := by
  rw [arrival?, he]

/-- A request that arrives was passed on by the outermost gate. -/
theorem exists_passed (h : arrival? m (gate :: lane) r st = some (r', st')) :
    ∃ r₁ leave st₁, (gate.layer m).enter r st = (.passed r₁ leave, st₁)
      ∧ arrival? m lane r₁ st₁ = some (r', st') := by
  cases he : (gate.layer m).enter r st with
  | mk entered st₁ =>
    cases entered with
    | answered outcome =>
      rw [arrival?_of_answered he] at h
      cases h
    | passed r₁ leave =>
      rw [arrival?_of_passed he] at h
      exact ⟨r₁, leave, st₁, rfl, h⟩

theorem arrival?_append (xs ys : List (Gate σ ν ρ)) (r : Request Payload)
    (st : Pipeline.State σ ν) :
    arrival? m (xs ++ ys) r st = (arrival? m xs r st).bind fun a => arrival? m ys a.1 a.2 := by
  induction xs generalizing r st with
  | nil => rfl
  | cons gate xs ih =>
    rw [List.cons_append]
    cases he : (gate.layer m).enter r st with
    | mk entered st₁ =>
      cases entered with
      | answered outcome => rw [arrival?_of_answered he, arrival?_of_answered he, Option.bind_none]
      | passed r₁ leave => rw [arrival?_of_passed he, arrival?_of_passed he, ih]

/-- A request that arrives at the end of two lanes has arrived between them. -/
theorem exists_between (h : arrival? m (xs ++ ys) r st = some (r', st')) :
    ∃ r₁ st₁, arrival? m xs r st = some (r₁, st₁) ∧ arrival? m ys r₁ st₁ = some (r', st') := by
  rw [arrival?_append] at h
  obtain ⟨⟨r₁, st₁⟩, h₁, h₂⟩ := Option.bind_eq_some_iff.mp h
  exact ⟨r₁, st₁, h₁, h₂⟩

theorem Along.passed (h : Along P m (gate :: lane) r st)
    (he : (gate.layer m).enter r st = (.passed r₁ leave, st₁)) :
    P gate r r₁ ∧ Along P m lane r₁ st₁ := by
  rw [Along, he] at h
  exact h

/-- What every gate does wherever it passes a request on holds along their lane. -/
theorem along_of_forall (h : ∀ gate ∈ lane, ∀ r st r₁ leave st₁,
      (gate.layer m).enter r st = (.passed r₁ leave, st₁) → P gate r r₁) : Along P m lane r st := by
  induction lane generalizing r st with
  | nil => exact trivial
  | cons gate lane ih =>
    cases he : (gate.layer m).enter r st with
    | mk entered st₁ =>
      rw [Along, he]
      cases entered with
      | answered outcome => exact trivial
      | passed r₁ leave =>
        exact ⟨h gate List.mem_cons_self r st r₁ leave st₁ he,
          ih fun gate' hg => h gate' (List.mem_cons_of_mem gate hg)⟩

/-- What holds along two lanes holds along the first, and along the second from where the request
arrives. -/
theorem Along.append (h : Along P m (xs ++ ys) r st) :
    Along P m xs r st
      ∧ ∀ r' st', arrival? m xs r st = some (r', st') → Along P m ys r' st' := by
  induction xs generalizing r st with
  | nil =>
    refine ⟨trivial, ?_⟩
    intro r' st' ha
    cases ha
    exact h
  | cons gate xs ih =>
    cases he : (gate.layer m).enter r st with
    | mk entered st₁ =>
      cases entered with
      | answered outcome =>
        rw [Along, he, arrival?_of_answered he]
        exact ⟨trivial, fun _ _ ha => by cases ha⟩
      | passed r₁ leave =>
        rw [List.cons_append] at h
        obtain ⟨hfirst, hrest⟩ := h.passed he
        obtain ⟨hxs, hys⟩ := ih hrest
        rw [Along, he, arrival?_of_passed he]
        exact ⟨⟨hfirst, hxs⟩, hys⟩

/-- **What every gate keeps** of a request and a state holds where the request arrives. -/
theorem arrival?_keeps {I : Request Payload → Pipeline.State σ ν → Prop}
    (hstep : ∀ gate ∈ lane, ∀ r st r₁ leave st₁, P gate r r₁ →
      (gate.layer m).enter r st = (.passed r₁ leave, st₁) → I r st → I r₁ st₁)
    (hP : Along P m lane r st) (hI : I r st) (ha : arrival? m lane r st = some (r', st')) :
    I r' st' := by
  induction lane generalizing r st with
  | nil =>
    cases ha
    exact hI
  | cons gate lane ih =>
    obtain ⟨r₁, leave, st₁, he, harrived⟩ := exists_passed ha
    obtain ⟨hfirst, hrest⟩ := hP.passed he
    exact ih (fun gate' hg => hstep gate' (List.mem_cons_of_mem gate hg)) hrest
      (hstep gate List.mem_cons_self r st r₁ leave st₁ hfirst he hI) harrived

end

/-! ## What gates do with a request -/

/-- All that a gate does with a request that it passes on, and with the count of minted identifiers. Of
the context an authenticator may change anything, and of the request a stage of the user's. -/
def Hands (m : Method) (r : Request Payload) (st : Pipeline.State σ ν) (r' : Request Payload)
    (st' : Pipeline.State σ ν) : Gate σ ν ρ → Prop
  | .recovery _ => r' = (ensureRequestId r st).1.2 ∧ st'.minted = (ensureRequestId r st).2.minted
  | .tagging => r' = (ensureRequestId r st).1.2 ∧ st'.minted = (ensureRequestId r st).2.minted
  | .admission _ => r' = r ∧ st'.minted = st.minted
  | .span => r' = r ∧ st'.minted = st.minted
  | .rateLimit g =>
    (∃ now b, r' = grouped (g.charge now m.fullName b).1 r) ∧ st'.minted = st.minted
  | .authentication _ => (∃ context, r' = { r with context }) ∧ st'.minted = st.minted
  | .user _ => st'.minted = st.minted

section

variable {m : Method} {gate : Gate σ ν ρ} {r r' : Request Payload} {st st' : Pipeline.State σ ν}
  {leave : Outcome ρ → StateM (Pipeline.State σ ν) (Outcome ρ)}

/-- The user's code mints nothing. -/
theorem minted_of_perform {α : Type} {act : StateM (Own σ ν) α} {a : α}
    (h : Pipeline.State.perform act st = (a, st')) : st'.minted = st.minted :=
  (congrArg (fun made => made.2.minted) h).symm

/-- The rate gate passes on what it admits, with its group, and mints nothing. -/
theorem rateLimitLayer_enter (g : RateGate) (m : Method) (r : Request Payload)
    (st : Pipeline.State σ ν) :
    let verdict := (g.charge st.clock m.fullName (st.buckets.getD (g.fresh st.clock))).1
    ∃ st₁ : Pipeline.State σ ν, st₁.minted = st.minted
      ∧ ((rateLimit g : Gate σ ν ρ).layer m).enter r st
        = if verdict.allowed then (pass (grouped verdict r), st₁)
          else (reject .rateLimited, st₁.report (.rateRejected m.fullName verdict.group)) := by
  simp only [layer, rateLimitLayer, grouped]
  obtain ⟨verdict, buckets⟩ := g.charge st.clock m.fullName (st.buckets.getD (g.fresh st.clock))
  cases verdict.opened with
  | none => exact ⟨{ st with buckets := some buckets }, rfl, by cases verdict.group <;> rfl⟩
  | some opened =>
    refine ⟨_, ?_, by cases verdict.group <;> rfl⟩
    rfl

/-- **What a gate does** with a request that it passes on. -/
theorem hands_of_passed (he : (gate.layer m).enter r st = (.passed r' leave, st')) :
    gate.Hands m r st r' st' := by
  cases gate with
  | recovery metrics =>
    rw [layer, recoveryLayer_enter] at he
    cases he
    exact ⟨rfl, rfl⟩
  | admission a =>
    simp only [layer, admissionLayer] at he
    split at he
    · cases he
      exact ⟨rfl, rfl⟩
    · cases he
  | rateLimit g =>
    obtain ⟨st₁, hminted, henter⟩ := rateLimitLayer_enter (ρ := ρ) g m r st
    rw [henter] at he
    split at he
    · cases he
      exact ⟨⟨_, _, rfl⟩, hminted⟩
    · cases he
  | authentication a =>
    simp only [layer, authenticationLayer] at he
    cases hp : Pipeline.State.perform (a m.fullName r.metadata r.context) st with
    | mk credential st₁ =>
      rw [hp] at he
      cases credential with
      | accepted context =>
        cases he
        exact ⟨⟨context, rfl⟩, minted_of_perform hp⟩
      | refused s | failed error | panicked payload => cases he
  | tagging =>
    cases he
    exact ⟨rfl, rfl⟩
  | span =>
    cases he
    exact ⟨rfl, rfl⟩
  | user stage =>
    simp only [layer, userLayer] at he
    cases hp : Pipeline.State.perform (stage.enter m r) st with
    | mk entered st₁ =>
      rw [hp] at he
      cases entered with
      | answered outcome => cases he
      | passed r₁ back =>
        cases he
        exact minted_of_perform hp

/-- A gate that answers a request mints nothing. -/
theorem minted_of_answered {outcome : Outcome ρ}
    (he : (gate.layer m).enter r st = (.answered outcome, st')) : st'.minted = st.minted := by
  cases gate with
  | recovery metrics =>
    rw [layer, recoveryLayer_enter] at he
    cases he
  | admission a =>
    simp only [layer, admissionLayer] at he
    split at he
    · cases he
    · cases he
      rfl
  | rateLimit g =>
    obtain ⟨st₁, hminted, henter⟩ := rateLimitLayer_enter (ρ := ρ) g m r st
    rw [henter] at he
    split at he
    · cases he
    · cases he
      exact hminted
  | authentication a =>
    simp only [layer, authenticationLayer] at he
    cases hp : Pipeline.State.perform (a m.fullName r.metadata r.context) st with
    | mk credential st₁ =>
      rw [hp] at he
      cases credential with
      | accepted context => cases he
      | refused s | failed error | panicked payload =>
        have hminted := minted_of_perform hp
        cases he
        exact hminted
  | tagging | span => cases he
  | user stage =>
    simp only [layer, userLayer] at he
    cases hp : Pipeline.State.perform (stage.enter m r) st with
    | mk entered st₁ =>
      rw [hp] at he
      cases entered with
      | answered outcome =>
        cases he
        exact minted_of_perform hp
      | passed r₁ back => cases he

end

/-! ## The way out -/

/-- What a gate makes of results, on every way out, is related to what it is given. -/
def Outward (P : Outcome ρ × Pipeline.State σ ν → Outcome ρ × Pipeline.State σ ν → Prop) (m : Method)
    (gate : Gate σ ν ρ) : Prop :=
  ∀ {r st r₁ leave st₁}, (gate.layer m).enter r st = (.passed r₁ leave, st₁) →
    ∀ made : Outcome ρ × Pipeline.State σ ν, P made (leave made.1 made.2)

section

variable {P : Outcome ρ × Pipeline.State σ ν → Outcome ρ × Pipeline.State σ ν → Prop} {m : Method}
  {xs : List (Gate σ ν ρ)} {r r' : Request Payload} {st st' : Pipeline.State σ ν}

/-- **Where a request arrives**, a lane is a way out around what is inside. -/
theorem run_of_arrival (hrefl : ∀ a, P a a) (htrans : ∀ a b c, P a b → P b c → P a c)
    (hout : ∀ gate ∈ xs, gate.Outward P m) (h : arrival? m xs r st = some (r', st')) :
    ∃ leave : Outcome ρ → StateM (Pipeline.State σ ν) (Outcome ρ),
      (∀ inner, run xs m inner r st = leave (inner r' st').1 (inner r' st').2)
        ∧ ∀ made : Outcome ρ × Pipeline.State σ ν, P made (leave made.1 made.2) := by
  induction xs generalizing r st with
  | nil =>
    cases h
    exact ⟨fun outcome st => (outcome, st), fun inner => rfl, hrefl⟩
  | cons gate xs ih =>
    obtain ⟨r₁, leave, st₁, he, harrived⟩ := exists_passed h
    obtain ⟨hgate, hrest⟩ := List.forall_mem_cons.mp hout
    obtain ⟨leave', hrun, hkept⟩ := ih hrest harrived
    refine ⟨fun outcome st => leave (leave' outcome st).1 (leave' outcome st).2, ?_, ?_⟩
    · intro inner
      rw [run_cons, Layer.around, he]
      dsimp only
      rw [hrun inner]
      rfl
    · intro made
      exact htrans _ _ _ (hkept made) (hgate he _)

/-- **Where a request does not arrive**, what is inside makes no difference. -/
theorem run_of_no_arrival (h : arrival? m xs r st = none)
    (inner inner' : Request Payload → StateM (Pipeline.State σ ν) (Outcome ρ)) :
    run xs m inner r st = run xs m inner' r st := by
  induction xs generalizing r st with
  | nil => cases h
  | cons gate xs ih =>
    rw [run_cons, run_cons, Layer.around, Layer.around]
    cases he : (gate.layer m).enter r st with
    | mk entered st₁ =>
      cases entered with
      | answered outcome => rfl
      | passed r₁ leave =>
        rw [arrival?_of_passed he] at h
        dsimp only
        rw [ih h]

end

/-- Every gate but recovery and the user's stages lets results out as they are. -/
theorem leave_eq {m : Method} {gate : Gate σ ν ρ} {r r' : Request Payload}
    {st st' : Pipeline.State σ ν} {leave : Outcome ρ → StateM (Pipeline.State σ ν) (Outcome ρ)}
    (he : (gate.layer m).enter r st = (.passed r' leave, st')) (hr : gate.isRecovery = false)
    (hu : ∀ stage, gate ≠ .user stage) : leave = fun outcome st => (outcome, st) := by
  funext outcome st₂
  cases gate with
  | recovery metrics => cases hr
  | admission a => exact (admissionLayer_plain a m).leave he _ _
  | rateLimit g => exact (rateLimitLayer_plain g m).leave he _ _
  | authentication a => exact (authenticationLayer_plain a m).leave he _ _
  | tagging => exact Plain.leave (l := taggingLayer) (fun r st => .inr ⟨_, rfl⟩) he _ _
  | span => exact (spanLayer_plain m).leave he _ _
  | user stage => exact absurd rfl (hu stage)

/-- Nothing is minted on the way out. -/
theorem outward_minted (gate : Gate σ ν ρ) (m : Method) :
    gate.Outward (fun a b => b.2.minted = a.2.minted) m := by
  intro r st r₁ leave st₁ he made
  obtain ⟨outcome, st₂⟩ := made
  cases gate with
  | recovery metrics =>
    rw [layer, recoveryLayer_enter] at he
    cases he
    cases outcome with
    | returned result => rfl
    | panicked payload => cases metrics <;> rfl
  | user stage =>
    simp only [layer, userLayer] at he
    split at he
    · cases he
    · cases he
      cases outcome <;> rfl
  | admission | rateLimit | authentication | tagging | span =>
    rw [leave_eq he rfl fun _ h => by cases h]

end Turnstile.Gate
