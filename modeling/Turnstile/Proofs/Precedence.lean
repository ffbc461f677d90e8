import Turnstile.Proofs.Composition
import Turnstile.Proofs.Frame

/-!
# Which gate decides

The gates of a lane are asked from the outside in: admission, the rate gate, the authenticator. The
first that turns a request away decides its fate, and then nothing further in is run: neither later
gates nor the stages and the handler.

* `Fate`: what can become of a request at the gates, with the answer that goes with it.
* `Choices.ruling`: the fate of a request, what it has drawn, and what the authenticator has done.
* `Choices.gates_govern`: a lane does what the ruling says, runs the stages on what is admitted, and
  nothing inside the gate that decides on what is not.
-/

namespace Turnstile

/-! ## Fates -/

/-- What becomes of a request at the gates. -/
inductive Fate where
  | blocked
  | rateLimited
  | refused (status : Status)
  | brokeDown (payload : Option String)
  | admitted

namespace Fate

/-- The status with which a gate rejects a request. -/
def rejection? : Fate → Option Status
  | .blocked => some ⟨.permissionDenied, "blocked"⟩
  | .rateLimited => some ⟨.resourceExhausted, "rate limit exceeded"⟩
  | .refused s => some s
  | .brokeDown _ => none
  | .admitted => none

/-- The fate that an authenticator's answer means. An error without a status is refused with a fixed
one. -/
def ofCredential : Credential → Fate
  | .accepted _ => .admitted
  | .refused s => .refused s
  | .failed _ => .refused ⟨.unauthenticated, "unauthenticated"⟩
  | .panicked payload => .brokeDown payload

/-- Whether a request came as far as the authenticator. -/
def consulted : Fate → Bool
  | .blocked => false
  | .rateLimited => false
  | _ => true

theorem consulted_ofCredential (credential : Credential) :
    (ofCredential credential).consulted = true := by
  cases credential <;> rfl

/-- How many of the gates inside recovery were asked about a request. -/
def depth : Fate → Nat
  | .blocked => 1
  | .rateLimited => 2
  | .refused _ => 3
  | .brokeDown _ => 3
  | .admitted => 4

/-- How a lane ends at the gates, unless the request is admitted. -/
def end? {ρ : Type} : Fate → Option (Outcome ρ)
  | .brokeDown payload => some (.panicked payload)
  | fate => fate.rejection?.map .failed

theorem end?_eq_none {ρ : Type} {fate : Fate} :
    (fate.end? : Option (Outcome ρ)) = none ↔ fate = .admitted := by
  cases fate <;> simp [end?, rejection?]

theorem end?_of_rejection? {ρ : Type} {fate : Fate} {s : Status}
    (h : fate.rejection? = some s) : (fate.end? : Option (Outcome ρ)) = some (.failed s) := by
  cases fate with
  | blocked | rateLimited | refused => simp only [end?, h, Option.map_some]
  | brokeDown | admitted => cases h

end Fate

/-- The outcome as recovery lets it out, where there is recovery. -/
def Outcome.recovered {ρ : Type} (recovery : Bool) : Outcome ρ → Outcome ρ
  | .returned result => .returned result
  | .panicked payload => if recovery then .failed .internal else .panicked payload

/-! ## The core of a state -/

/-- The note that an entry of the journal is. -/
def JournalEntry.note? {ν : Type} : JournalEntry ν → Option ν
  | .note n => some n
  | .trace _ => none

theorem filterMap_note? {ν : Type} (ns : List ν) :
    (ns.map JournalEntry.note).filterMap JournalEntry.note? = ns := by
  induction ns with
  | nil => rfl
  | cons n ns ih => rw [List.map_cons, List.filterMap_cons, ih]; rfl

namespace Pipeline.State

variable {σ ν : Type}

/-- The notes in the journal. -/
def notes (st : State σ ν) : List ν := st.journal.filterMap JournalEntry.note?

/-- A state without its reports, counts and minted identifiers. -/
structure Core (σ ν : Type) where
  clock : Nat
  buckets : Option Buckets
  user : σ
  notes : List ν
  outbox : Option (List (Except Status Payload))

/-- The core of a state. -/
def core (st : State σ ν) : Core σ ν := ⟨st.clock, st.buckets, st.user, st.notes, st.outbox⟩

@[simp] theorem notes_report (e : TraceEvent) (st : State σ ν) : (st.report e).notes = st.notes := by
  show (st.journal ++ [JournalEntry.trace e]).filterMap JournalEntry.note? = _
  rw [List.filterMap_append]
  exact List.append_nil _

@[simp] theorem core_report (e : TraceEvent) (st : State σ ν) : (st.report e).core = st.core := by
  simp only [core, notes_report]
  rfl

@[simp] theorem core_count (metrics : Option Collector) (entry : Ledger → Ledger) (st : State σ ν) :
    (st.count metrics entry).core = st.core := by
  cases metrics <;> rfl

theorem notes_perform {α : Type} (act : StateM (Own σ ν) α) (st : State σ ν) :
    (perform act st).2.notes = st.notes ++ (act { state := st.user }).2.notes := by
  show (st.journal ++ (act { state := st.user }).2.notes.map JournalEntry.note).filterMap
    JournalEntry.note? = _
  rw [List.filterMap_append, filterMap_note?]
  rfl

/-- What the user's code does shows in the user's state and in the notes. -/
theorem core_perform {α : Type} (act : StateM (Own σ ν) α) (st : State σ ν) :
    (perform act st).2.core = { st.core with
      user := (act { state := st.user }).2.state
      notes := st.notes ++ (act { state := st.user }).2.notes } := by
  simp only [core, notes_perform]
  rfl

@[simp] theorem core_ensureRequestId {α : Type} (r : Request α) (st : State σ ν) :
    (ensureRequestId r st).2.core = st.core := by
  rw [ensureRequestId_eq]
  rfl

end Pipeline.State

open Pipeline.State (Core)

/-- Only the context of a request can change when it gets an identifier. -/
theorem ensureRequestId_request {σ ν α : Type} (r : Request α) (st : Pipeline.State σ ν) :
    ∃ context, (ensureRequestId r st).1.2 = { r with context } := by
  rw [ensureRequestId_eq]
  exact ⟨_, rfl⟩

/-! ## Gates that decide -/

namespace Gate

variable {σ ν ρ : Type}

theorem run_append (xs ys : List (Gate σ ν ρ)) (m : Method)
    (h : Request Payload → StateM (Pipeline.State σ ν) (Outcome ρ)) :
    run (xs ++ ys) m h = run xs m (run ys m h) := by
  simp only [run, List.map_append, Layer.chain_append]

/-- What gates do with a request: they end its call, or they pass it on. -/
inductive Dealt (ρ : Type) where
  | ended (outcome : Outcome ρ)
  | passed (r : Request Payload)

/-- Gates deal with a request alike whatever is inside them, and leave a state behind. -/
def Deals (lane : List (Gate σ ν ρ)) (m : Method) (r : Request Payload) (st : Pipeline.State σ ν)
    (dealt : Dealt ρ) (st' : Pipeline.State σ ν) : Prop :=
  ∀ inner, run lane m inner r st = match dealt with
    | .ended outcome => (outcome, st')
    | .passed r' => inner r' st'

namespace Deals

variable {xs ys : List (Gate σ ν ρ)} {m : Method} {r r' : Request Payload}
  {st st' st'' : Pipeline.State σ ν}

theorem nil : Deals ([] : List (Gate σ ν ρ)) m r st (.passed r) st := fun _ => rfl

/-- What outer gates pass on, inner ones deal with. -/
theorem append (h : Deals xs m r st (.passed r') st') {dealt : Dealt ρ}
    (h' : Deals ys m r' st' dealt st'') : Deals (xs ++ ys) m r st dealt st'' := by
  intro inner
  rw [run_append, h]
  exact h' inner

/-- What outer gates end does not come to inner ones. -/
theorem ended {outcome : Outcome ρ} (h : Deals xs m r st (.ended outcome) st')
    (ys : List (Gate σ ν ρ)) : Deals (xs ++ ys) m r st (.ended outcome) st' := by
  intro inner
  rw [run_append, h]

end Deals

/-! ## One gate at a time -/

theorem deals_of_pass {gate : Gate σ ν ρ} {m : Method} {r r' : Request Payload}
    {st st' : Pipeline.State σ ν} (h : (gate.layer m).enter r st = (pass r', st')) :
    Deals [gate] m r st (.passed r') st' := by
  intro inner
  show (gate.layer m).around inner r st = _
  unfold Layer.around
  rw [h]
  rfl

theorem deals_of_answer {gate : Gate σ ν ρ} {m : Method} {r : Request Payload}
    {st st' : Pipeline.State σ ν} {outcome : Outcome ρ}
    (h : (gate.layer m).enter r st = (.answered outcome, st')) :
    Deals [gate] m r st (.ended outcome) st' := by
  intro inner
  show (gate.layer m).around inner r st = _
  unfold Layer.around
  rw [h]

/-- Admission, if there is any. -/
theorem deals_admission (ρ : Type) (a : Option Admission) (m : Method) (r : Request Payload)
    (st : Pipeline.State σ ν) :
    ∃ st', st'.core = st.core ∧ @Deals σ ν ρ (a.map .admission).toList m r st
      (if a.any fun a => !a.evaluateRequest r then .ended (.failed .blocked) else .passed r) st' := by
  cases a with
  | none => exact ⟨st, rfl, Deals.nil⟩
  | some a =>
    cases he : a.evaluateRequest r with
    | true =>
      refine ⟨st, rfl, ?_⟩
      simp only [Option.any_some, he]
      exact deals_of_pass (by simp [layer, admissionLayer, he])
    | false =>
      refine ⟨_, Pipeline.State.core_report (.addressRejected m.fullName r.peer) st, ?_⟩
      simp only [Option.any_some, he]
      exact deals_of_answer (by simp [layer, admissionLayer, he]; rfl)

/-- What a call draws from the buckets at an instant, if there is a rate gate. -/
def drawn (g : Option RateGate) (now : Nat) (buckets : Option Buckets) (m : Method) :
    Verdict × Option Buckets :=
  match g with
  | none => (⟨true, none, none⟩, buckets)
  | some g =>
    let charged := g.charge now m.fullName (buckets.getD (g.fresh now))
    (charged.1, some charged.2)

/-- The request with the group that the rate gate has found. -/
def grouped (verdict : Verdict) (r : Request Payload) : Request Payload :=
  match verdict.group with
  | some name => r.updateContext fun c => { c with group := some name }
  | none => r

theorem grouped_request (verdict : Verdict) (r : Request Payload) :
    ∃ context, grouped verdict r = { r with context } := by
  unfold grouped
  cases verdict.group with
  | none => exact ⟨r.context, rfl⟩
  | some name => exact ⟨{ r.context with group := some name }, rfl⟩

/-- A rate gate: what its charge comes to. -/
theorem deals_charge (ρ : Type) {g : RateGate} {m : Method} (r : Request Payload)
    {st : Pipeline.State σ ν} {verdict : Verdict} {buckets : Buckets}
    (hc : g.charge st.clock m.fullName (st.buckets.getD (g.fresh st.clock)) = (verdict, buckets)) :
    ∃ st', st'.core = { st.core with buckets := some buckets }
      ∧ @Deals σ ν ρ [.rateLimit g] m r st
        (if verdict.allowed then .passed (grouped verdict r) else .ended (.failed .rateLimited))
        st' := by
  -- the state once the token is taken and an opened bucket is reported
  obtain ⟨st₁, hcore, hst₁⟩ : ∃ st₁ : Pipeline.State σ ν,
      st₁.core = { st.core with buckets := some buckets }
        ∧ ((rateLimit g : Gate σ ν ρ).layer m).enter r st
          = if verdict.allowed then (pass (grouped verdict r), st₁)
            else (reject .rateLimited, st₁.report (.rateRejected m.fullName verdict.group)) := by
    simp only [layer, rateLimitLayer, hc, grouped]
    cases verdict.opened with
    | none => exact ⟨{ st with buckets := some buckets }, rfl, by cases verdict.group <;> rfl⟩
    | some opened =>
      refine ⟨_, ?_, by cases verdict.group <;> rfl⟩
      exact Pipeline.State.core_report _ { st with buckets := some buckets }
  cases ha : verdict.allowed with
  | true =>
    rw [ha] at hst₁
    exact ⟨st₁, hcore, deals_of_pass hst₁⟩
  | false =>
    rw [ha] at hst₁
    refine ⟨_, ?_, deals_of_answer hst₁⟩
    rw [Pipeline.State.core_report, hcore]

/-- The rate gate, if there is one. -/
theorem deals_rateLimit (ρ : Type) (g : Option RateGate) (m : Method) (r : Request Payload)
    (st : Pipeline.State σ ν) :
    ∃ st', st'.core = { st.core with buckets := (drawn g st.clock st.buckets m).2 }
      ∧ @Deals σ ν ρ (g.map .rateLimit).toList m r st
        (if (drawn g st.clock st.buckets m).1.allowed
          then .passed (grouped (drawn g st.clock st.buckets m).1 r)
          else .ended (.failed .rateLimited)) st' := by
  cases g with
  | none => exact ⟨st, rfl, Deals.nil⟩
  | some g => exact deals_charge ρ r rfl

/-- What the authenticator makes of a request, if there is one, and what it leaves of the user's
state. -/
def asked (a : Option (Authenticator σ ν)) (m : Method) (r : Request Payload) (user : σ) :
    Fate × Own σ ν :=
  match a with
  | none => (.admitted, { state := user })
  | some a =>
    let answer := a m.fullName r.metadata r.context { state := user }
    (.ofCredential answer.1, answer.2)

theorem consulted_asked (a : Option (Authenticator σ ν)) (m : Method) (r : Request Payload)
    (user : σ) : (asked a m r user).1.consulted = true := by
  cases a with
  | none => rfl
  | some a => exact Fate.consulted_ofCredential _

/-- How gates deal with a request of some fate; what is admitted is passed on. -/
def dealt (fate : Fate) (r : Request Payload) : Dealt ρ :=
  match fate.end? with
  | some outcome => .ended outcome
  | none => .passed r

/-- The authenticator, if there is one. -/
theorem deals_authentication (ρ : Type) (a : Option (Authenticator σ ν)) (m : Method)
    (r : Request Payload) (st : Pipeline.State σ ν) :
    ∃ context st', st'.core = { st.core with
          user := (asked a m r st.user).2.state
          notes := st.notes ++ (asked a m r st.user).2.notes }
      ∧ @Deals σ ν ρ (a.map .authentication).toList m r st
        (dealt (asked a m r st.user).1 { r with context }) st' := by
  cases a with
  | none => exact ⟨r.context, st, by simp [asked, Pipeline.State.core], Deals.nil⟩
  | some a =>
    obtain ⟨st₁, hp⟩ : ∃ st₁, Pipeline.State.perform (a m.fullName r.metadata r.context) st
        = ((a m.fullName r.metadata r.context { state := st.user }).1, st₁) := ⟨_, rfl⟩
    have hcore := Pipeline.State.core_perform (a m.fullName r.metadata r.context) st
    rw [hp] at hcore
    simp only [asked]
    cases hc : (a m.fullName r.metadata r.context { state := st.user }).1 with
    | accepted context =>
      rw [hc] at hp
      exact ⟨context, st₁, hcore, deals_of_pass (by simp [layer, authenticationLayer, hp])⟩
    | refused s =>
      rw [hc] at hp
      exact ⟨r.context, st₁, hcore, deals_of_answer (by simp [layer, authenticationLayer, hp]; rfl)⟩
    | failed error =>
      rw [hc] at hp
      refine ⟨r.context, _, ?_, deals_of_answer (by simp [layer, authenticationLayer, hp]; rfl)⟩
      rw [Pipeline.State.core_report, hcore]
    | panicked payload =>
      rw [hc] at hp
      exact ⟨r.context, st₁, hcore, deals_of_answer (by simp [layer, authenticationLayer, hp])⟩

/-- Tagging, if there is any. -/
theorem deals_tagging (ρ : Type) (tagged : Bool) (m : Method) (r : Request Payload)
    (st : Pipeline.State σ ν) :
    ∃ context st', st'.core = st.core
      ∧ @Deals σ ν ρ (if tagged then [.tagging] else []) m r st (.passed { r with context })
        st' := by
  cases tagged with
  | false => exact ⟨r.context, st, rfl, Deals.nil⟩
  | true =>
    obtain ⟨context, hr⟩ := ensureRequestId_request r st
    refine ⟨context, _, Pipeline.State.core_ensureRequestId r st, deals_of_pass ?_⟩
    rw [← hr]
    rfl

/-- The request as recovery passes it on, if there is recovery. -/
def identified (recovery : Bool) (r : Request Payload) (st : Pipeline.State σ ν) : Request Payload :=
  if recovery then (ensureRequestId r st).1.2 else r

theorem identified_request (recovery : Bool) (r : Request Payload) (st : Pipeline.State σ ν) :
    ∃ context, identified recovery r st = { r with context } := by
  cases recovery with
  | false => exact ⟨r.context, rfl⟩
  | true => exact ensureRequestId_request r st

/-- Recovery, if there is any. -/
def outermost (recovery : Bool) (metrics : Option Collector) : List (Gate σ ν ρ) :=
  if recovery then [.recovery metrics] else []

/-- Recovery lets no panic out, and what is inside it counts only by what it does with the request that
comes to it. -/
theorem run_recovery (ρ : Type) (recovery : Bool) (metrics : Option Collector) (m : Method)
    (r : Request Payload) (st : Pipeline.State σ ν) :
    ∃ st', st'.core = st.core
      ∧ ∀ inner : Request Payload → StateM (Pipeline.State σ ν) (Outcome ρ),
        (run (outermost recovery metrics) m inner r st).1
            = (inner (identified recovery r st) st').1.recovered recovery
          ∧ (run (outermost recovery metrics) m inner r st).2.core
            = (inner (identified recovery r st) st').2.core
          ∧ ∀ inner', inner (identified recovery r st) st' = inner' (identified recovery r st) st' →
            run (outermost recovery metrics) m inner r st
              = run (outermost recovery metrics) m inner' r st := by
  cases recovery with
  | false =>
    refine ⟨st, rfl, fun inner => ⟨?_, rfl, fun inner' h => h⟩⟩
    show (inner r st).1 = (inner r st).1.recovered false
    cases (inner r st).1 <;> rfl
  | true =>
    have hcore := Pipeline.State.core_ensureRequestId r st
    cases he : ensureRequestId r st with
    | mk made st₁ =>
      obtain ⟨id, r₁⟩ := made
      rw [he] at hcore
      have hrun : ∀ inner, run (outermost true metrics : List (Gate σ ν ρ)) m inner r st
          = (recoveryLayer metrics m).around inner r st := fun _ => rfl
      refine ⟨st₁, hcore, ?_⟩
      intro inner
      simp only [identified, if_true, hrun, Layer.around, recoveryLayer, he]
      refine ⟨?_, ?_, fun inner' h => by rw [h]⟩
      · cases inner r₁ st₁ with
        | mk outcome st₂ => cases outcome <;> rfl
      · cases inner r₁ st₁ with
        | mk outcome st₂ =>
          cases outcome with
          | returned result => rfl
          | panicked payload => simp only [Pipeline.State.core_count, Pipeline.State.core_report]

end Gate

/-! ## Rulings -/

/-- What the gates make of a request: its fate, the buckets as they leave them, and what the
authenticator leaves of the user's state. -/
structure Ruling (σ ν : Type) where
  fate : Fate
  buckets : Option Buckets
  own : Own σ ν

/-- The core of a state after a ruling. -/
def Ruling.core {σ ν : Type} (d : Ruling σ ν) (st : Pipeline.State σ ν) : Core σ ν :=
  { st.core with
    buckets := d.buckets
    user := d.own.state
    notes := st.notes ++ d.own.notes }

namespace Choices

variable {σ ν ρ : Type}

/-- Whether admission turns a request away. -/
def blocks {α : Type} (c : Choices σ ν) (r : Request α) : Bool :=
  c.admission.any fun a => !a.evaluateRequest r

/-- The gates inside recovery, outermost first. -/
def inner (c : Choices σ ν) (g : Option RateGate) : List (List (Gate σ ν ρ)) :=
  [(c.admission.map .admission).toList, (g.map .rateLimit).toList,
    (c.authenticator.map .authentication).toList,
    if c.recovery || c.requestId then [.tagging] else []]

/-- The gates inside recovery that are asked about a request of some fate: those as far as the one that
decides it. -/
def asked (c : Choices σ ν) (g : Option RateGate) (fate : Fate) : List (Gate σ ν ρ) :=
  ((c.inner g).take fate.depth).flatten

/-- Inside recovery the gates that are asked stand outside all others. -/
theorem gates_eq (c : Choices σ ν) (g : Option RateGate) (fate : Fate) :
    (c.gates g : List (Gate σ ν ρ)) = Gate.outermost c.recovery c.metrics
      ++ (c.asked g fate ++ ((c.inner g).drop fate.depth).flatten) := by
  rw [asked, ← List.flatten_append, List.take_append_drop]
  unfold gates inner Gate.outermost
  simp only [List.append_assoc, List.flatten_cons, List.flatten_nil, List.append_nil]

/-- A request as it comes to the authenticator. -/
def presented (c : Choices σ ν) (g : Option RateGate) (m : Method) (r : Request Payload)
    (st : Pipeline.State σ ν) : Request Payload :=
  Gate.grouped (Gate.drawn g st.clock st.buckets m).1 (Gate.identified c.recovery r st)

/-- What the gates make of a request. The first gate that turns it away decides; gates further in are
not asked then. -/
def ruling (c : Choices σ ν) (g : Option RateGate) (m : Method) (r : Request Payload)
    (st : Pipeline.State σ ν) : Ruling σ ν :=
  if c.blocks r then ⟨.blocked, st.buckets, { state := st.user }⟩
  else
    let (verdict, buckets) := Gate.drawn g st.clock st.buckets m
    if verdict.allowed then
      let (fate, own) := Gate.asked c.authenticator m (c.presented g m r st) st.user
      ⟨fate, buckets, own⟩
    else ⟨.rateLimited, buckets, { state := st.user }⟩

section

variable {c : Choices σ ν} {g : Option RateGate} {m : Method} {r : Request Payload}
  {st : Pipeline.State σ ν}

theorem ruling_of_blocks (hb : c.blocks r = true) :
    c.ruling g m r st = ⟨.blocked, st.buckets, { state := st.user }⟩ := by
  simp [ruling, hb]

theorem ruling_of_not_allowed (hb : c.blocks r = false)
    (ha : (Gate.drawn g st.clock st.buckets m).1.allowed = false) :
    c.ruling g m r st
      = ⟨.rateLimited, (Gate.drawn g st.clock st.buckets m).2, { state := st.user }⟩ := by
  simp [ruling, hb, ha]

theorem ruling_of_allowed (hb : c.blocks r = false)
    (ha : (Gate.drawn g st.clock st.buckets m).1.allowed = true) :
    c.ruling g m r st
      = ⟨(Gate.asked c.authenticator m (c.presented g m r st) st.user).1,
          (Gate.drawn g st.clock st.buckets m).2,
          (Gate.asked c.authenticator m (c.presented g m r st) st.user).2⟩ := by
  simp [ruling, hb, ha]

theorem presented_request (c : Choices σ ν) (g : Option RateGate) (m : Method) (r : Request Payload)
    (st : Pipeline.State σ ν) : ∃ context, c.presented g m r st = { r with context } := by
  obtain ⟨context₁, h₁⟩ := Gate.identified_request c.recovery r st
  obtain ⟨context₂, h₂⟩ := Gate.grouped_request (Gate.drawn g st.clock st.buckets m).1
    (Gate.identified c.recovery r st)
  refine ⟨context₂, ?_⟩
  rw [presented, h₂, h₁]

/-- The gates inside recovery that are asked about a request deal with it as the ruling says. -/
theorem deals_asked (ρ : Type) (c : Choices σ ν) (g : Option RateGate) (m : Method)
    (r : Request Payload) {st st₀ : Pipeline.State σ ν} (h₀ : st₀.core = st.core) :
    ∃ context st', st'.core = (c.ruling g m r st).core st
      ∧ @Gate.Deals σ ν ρ (c.asked g (c.ruling g m r st).fate) m (Gate.identified c.recovery r st)
        st₀ (Gate.dealt (c.ruling g m r st).fate { r with context }) st' := by
  obtain ⟨st₁, hcore₁, hadmission⟩ :=
    Gate.deals_admission ρ c.admission m (Gate.identified c.recovery r st) st₀
  -- admission looks at the peer, and recovery changes only the context
  have hblocks : (c.admission.any fun a => !a.evaluateRequest (Gate.identified c.recovery r st))
      = c.blocks r := by
    obtain ⟨seen, hseen⟩ := Gate.identified_request c.recovery r st
    rw [hseen]
    rfl
  rw [hblocks] at hadmission
  rw [h₀] at hcore₁
  cases hb : c.blocks r with
  | true =>
    rw [hb] at hadmission
    rw [ruling_of_blocks hb]
    refine ⟨r.context, st₁, ?_, hadmission.ended _⟩
    rw [hcore₁]
    simp [Ruling.core, Pipeline.State.core]
  | false =>
    rw [hb] at hadmission
    obtain ⟨st₂, hcore₂, hrate⟩ :=
      Gate.deals_rateLimit ρ g m (Gate.identified c.recovery r st) st₁
    rw [show st₁.clock = st.clock from congrArg Core.clock hcore₁,
      show st₁.buckets = st.buckets from congrArg Core.buckets hcore₁] at hcore₂ hrate
    rw [hcore₁] at hcore₂
    cases ha : (Gate.drawn g st.clock st.buckets m).1.allowed with
    | false =>
      rw [ha] at hrate
      rw [ruling_of_not_allowed hb ha]
      refine ⟨r.context, st₂, ?_, hadmission.append (hrate.ended _)⟩
      rw [hcore₂]
      simp [Ruling.core, Pipeline.State.core]
    | true =>
      rw [ha] at hrate
      rw [ruling_of_allowed hb ha]
      obtain ⟨context₃, st₃, hcore₃, hauth⟩ :=
        Gate.deals_authentication ρ c.authenticator m (c.presented g m r st) st₂
      rw [show st₂.user = st.user from congrArg Core.user hcore₂] at hcore₃ hauth
      rw [show st₂.notes = st.notes from congrArg Core.notes hcore₂, hcore₂] at hcore₃
      obtain ⟨seen, hseen⟩ := c.presented_request g m r st
      have hsame : ∀ context, { c.presented g m r st with context } = { r with context } := by
        intro context
        rw [hseen]
      rw [hsame] at hauth
      -- an authenticator's answer is not a fate that an outer gate gives
      have hasked := Gate.consulted_asked c.authenticator m (c.presented g m r st) st.user
      cases hf : (Gate.asked c.authenticator m (c.presented g m r st) st.user).1 with
      | blocked | rateLimited =>
        rw [hf] at hasked
        cases hasked
      | refused | brokeDown =>
        rw [hf] at hauth
        exact ⟨context₃, st₃, hcore₃, hadmission.append (hrate.append (hauth.ended _))⟩
      | admitted =>
        rw [hf] at hauth
        obtain ⟨context₄, st₄, hcore₄, htag⟩ := Gate.deals_tagging ρ (c.recovery || c.requestId) m
          { r with context := context₃ } st₃
        exact ⟨context₄, st₄, hcore₄.trans hcore₃,
          hadmission.append (hrate.append (hauth.append (htag.append .nil)))⟩

end

/-- A lane of gates and stages **goes by the rulings**.
* It ends as the ruling says, or, where the request is admitted, as the stages and the handler end that
  run on it, except that recovery lets no panic out. Up to reports, counts and minted identifiers
  nothing else happens.
* Where the request is not admitted, all is as if there were anything else inside the gate that
  decides. -/
structure Governs (c : Choices σ ν) (g : Option RateGate) (lane stages : List (Gate σ ν ρ)) :
    Prop where
  ends : ∀ (m : Method) (handler : Request Payload → StateM (Pipeline.State σ ν) (Outcome ρ))
    (r : Request Payload) (st : Pipeline.State σ ν),
    ∃ context st', st'.core = (c.ruling g m r st).core st
      ∧ let inner := match (c.ruling g m r st).fate.end? with
          | some outcome => (outcome, st')
          | none => Gate.run stages m handler { r with context } st'
        (Gate.run lane m handler r st).1 = inner.1.recovered c.recovery
          ∧ (Gate.run lane m handler r st).2.core = inner.2.core
  stops : ∀ (m : Method) (handler : Request Payload → StateM (Pipeline.State σ ν) (Outcome ρ))
    (r : Request Payload) (st : Pipeline.State σ ν), (c.ruling g m r st).fate ≠ .admitted →
    ∀ inner, Gate.run lane m handler r st
      = Gate.run (Gate.outermost c.recovery c.metrics ++ c.asked g (c.ruling g m r st).fate) m inner
        r st

/-- **Which gate decides.** The gates around any stages go by the rulings. -/
theorem gates_govern (c : Choices σ ν) (g : Option RateGate) (stages : List (Gate σ ν ρ)) :
    c.Governs g (c.gates g ++ stages) stages := by
  have hsplit : ∀ (fate : Fate) m handler, ∃ inner,
      Gate.run (c.gates g ++ stages) m handler
          = Gate.run (Gate.outermost c.recovery c.metrics) m (Gate.run (c.asked g fate) m inner)
        ∧ (fate = .admitted → inner = Gate.run stages m handler) := by
    intro fate m handler
    refine ⟨Gate.run ((c.inner g).drop fate.depth).flatten m (Gate.run stages m handler), ?_, ?_⟩
    · rw [c.gates_eq g fate]
      simp only [Gate.run_append]
    · intro hf
      rw [hf]
      rfl
  constructor
  · intro m handler r st
    obtain ⟨st₀, hcore₀, hrecovery⟩ := Gate.run_recovery ρ c.recovery c.metrics m r st
    obtain ⟨context, st', hcore, hdeals⟩ := c.deals_asked ρ g m r hcore₀
    obtain ⟨inner, hrun, hadmitted⟩ := hsplit (c.ruling g m r st).fate m handler
    obtain ⟨hfst, hsnd, -⟩ := hrecovery (Gate.run (c.asked g (c.ruling g m r st).fate) m inner)
    refine ⟨context, st', hcore, ?_⟩
    rw [hrun, hfst, hsnd, hdeals inner]
    unfold Gate.dealt
    cases he : ((c.ruling g m r st).fate.end? : Option (Outcome ρ)) with
    | some outcome => exact ⟨rfl, rfl⟩
    | none =>
      rw [hadmitted (Fate.end?_eq_none.mp he)]
      exact ⟨rfl, rfl⟩
  · intro m handler r st hf inner
    obtain ⟨st₀, hcore₀, hrecovery⟩ := Gate.run_recovery ρ c.recovery c.metrics m r st
    obtain ⟨context, st', -, hdeals⟩ := c.deals_asked ρ g m r hcore₀
    obtain ⟨inner', hrun, -⟩ := hsplit (c.ruling g m r st).fate m handler
    obtain ⟨outcome, he⟩ : ∃ outcome : Outcome ρ, (c.ruling g m r st).fate.end? = some outcome :=
      Option.ne_none_iff_exists'.mp fun hn => hf (Fate.end?_eq_none.mp hn)
    rw [hrun, Gate.run_append]
    refine (hrecovery _).2.2 _ ?_
    rw [hdeals inner', hdeals inner]
    simp only [Gate.dealt, he]

end Choices

end Turnstile
