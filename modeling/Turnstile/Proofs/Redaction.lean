import Turnstile.Proofs.Runs

/-!
# What a panic says does not matter

A panic carries a payload. Recovery reports it, and beyond that nothing depends on it unless a stage of
the user's catches panics and reads their payloads: if the payloads are struck out of what the user
supplies and of the journal, everything goes on as before. So two calls whose panics differ only in
their payloads cannot be told apart by their answers, nor by what comes after them.

* `UserStage.Blind`, `UserStage.LetsPanicsBy`: a stage does not read payloads, and one that does not
  even catch panics.
* `Pipeline.redact`, `Call.redact`, `Pipeline.State.redact`: the same without the payloads of panics.
* `Gate.layer_redact`: one gate, and `Gate.run_redact`, a lane.
* `Answer`, `Call.answer`: all that a call gives to its caller.
* `Call.answer_redact`, `Pipeline.calls_redact`: calls and runs.
-/

namespace Turnstile

/-! ## Striking out payloads -/

/-- The outcome without the payload of a panic. -/
def Outcome.redact {ρ : Type} : Outcome ρ → Outcome ρ
  | .returned result => .returned result
  | .panicked _ => .panicked none

@[simp] theorem Outcome.redact_redact {ρ : Type} (o : Outcome ρ) : o.redact.redact = o.redact := by
  cases o <;> rfl

/-- The production without the payload of a panic. -/
def Production.redact (made : Production) : Production := { made with outcome := made.outcome.redact }

/-- The answer of an authenticator without the payload of a panic. -/
def Credential.redact : Credential → Credential
  | .panicked _ => .panicked none
  | credential => credential

/-- The report without the payload of a panic. -/
def TraceEvent.redact : TraceEvent → TraceEvent
  | .panicRecovered method id _ => .panicRecovered method id none
  | e => e

/-- The entry without the payload of a panic. -/
def JournalEntry.redact {ν : Type} : JournalEntry ν → JournalEntry ν
  | .trace e => .trace e.redact
  | .note n => .note n

section

variable {σ ν ρ : Type}

/-- What a stage does, without the payloads of panics: those that it raises and those that it is told. -/
def UserEntered.redact : UserEntered σ ν ρ → UserEntered σ ν ρ
  | .answered outcome => .answered outcome.redact
  | .passed r leave => .passed r fun outcome => Outcome.redact <$> leave outcome.redact

/-- The stage, with no payloads to its panics. -/
def UserStage.redact (stage : UserStage σ ν ρ) : UserStage σ ν ρ :=
  ⟨fun m r => UserEntered.redact <$> stage.enter m r⟩

/-- The authenticator, with no payloads to its panics. -/
def Authenticator.redact (a : Authenticator σ ν) : Authenticator σ ν := fun name metadata context =>
  Credential.redact <$> a name metadata context

/-- The gate, with no payloads to its panics. -/
def Gate.redact : Gate σ ν ρ → Gate σ ν ρ
  | .authentication a => .authentication (Authenticator.redact a)
  | .user stage => .user stage.redact
  | gate => gate

namespace Pipeline

/-- The pipeline, with no payloads to its panics. -/
def redact (p : Pipeline σ ν) : Pipeline σ ν :=
  { p with unary := p.unary.map Gate.redact, stream := p.stream.map Gate.redact }

/-- The state without the payloads of panics in its journal. -/
def State.redact (st : State σ ν) : State σ ν :=
  { st with journal := st.journal.map JournalEntry.redact }

end Pipeline

/-- The call, with no payloads to the panics of its handler. -/
def Call.redact : Call σ ν → Call σ ν
  | @unary _ _ _ _ _ _ m r handler => .unary m r fun r => Outcome.redact <$> handler r
  | @stream _ _ _ _ m r handler => .stream m r fun r => Outcome.redact <$> handler r
  | @serverStream _ _ _ _ m r handler => .serverStream m r fun r => Production.redact <$> handler r

/-- The event, with no payloads to the panics of a handler. -/
def Pipeline.Event.redact : Pipeline.Event σ ν → Pipeline.Event σ ν
  | .wait nanos => .wait nanos
  | .call k => .call k.redact

end

/-! ## Stages that do not read payloads -/

section

variable {σ ν ρ : Type}

/-- A stage does the same whatever the payload of a panic further in, up to the payloads that it
raises. -/
def UserStage.Blind (stage : UserStage σ ν ρ) : Prop :=
  ∀ ⦃m r own r' leave own'⦄, stage.enter m r own = (.passed r' leave, own') → ∀ payload,
    Outcome.redact <$> leave (.panicked payload) = Outcome.redact <$> leave (.panicked none)

/-- A stage lets a panic by that is further in. It may clean up on the way, but does not learn what the
panic says. -/
def UserStage.LetsPanicsBy (stage : UserStage σ ν ρ) : Prop :=
  ∀ ⦃m r own r' leave own'⦄, stage.enter m r own = (.passed r' leave, own') →
    ∃ cleanUp : Own σ ν → Own σ ν,
      ∀ payload own, leave (.panicked payload) own = (.panicked payload, cleanUp own)

/-- A stage that lets panics by does not read them. -/
theorem UserStage.LetsPanicsBy.blind {stage : UserStage σ ν ρ} (h : stage.LetsPanicsBy) :
    stage.Blind := by
  intro m r own r' leave own' he payload
  obtain ⟨cleanUp, hleave⟩ := h he
  funext own
  have hboth : ∀ payload, (Outcome.redact <$> leave (.panicked payload)) own
      = (.panicked none, cleanUp own) := by
    intro payload
    show ((leave (.panicked payload) own).1.redact, (leave (.panicked payload) own).2) = _
    rw [hleave]
    rfl
  rw [hboth, hboth]

namespace Gate

/-- A stage of the user's does not read the payloads of panics. -/
def Blind : Gate σ ν ρ → Prop
  | .user stage => stage.Blind
  | _ => True

/-- A stage of the user's lets panics by. -/
def LetsPanicsBy : Gate σ ν ρ → Prop
  | .user stage => stage.LetsPanicsBy
  | _ => True

theorem LetsPanicsBy.blind {gate : Gate σ ν ρ} (h : gate.LetsPanicsBy) : gate.Blind := by
  cases gate with
  | user stage => exact UserStage.LetsPanicsBy.blind h
  | recovery | admission | rateLimit | authentication | tagging | span => trivial

end Gate

/-- The stages of a pipeline do not read the payloads of panics. -/
structure Pipeline.Blind (p : Pipeline σ ν) : Prop where
  unary : ∀ gate ∈ p.unary, gate.Blind
  stream : ∀ gate ∈ p.stream, gate.Blind

/-- The stages of a pipeline let panics by. -/
structure Pipeline.LetsPanicsBy (p : Pipeline σ ν) : Prop where
  unary : ∀ gate ∈ p.unary, gate.LetsPanicsBy
  stream : ∀ gate ∈ p.stream, gate.LetsPanicsBy

theorem Pipeline.LetsPanicsBy.blind {p : Pipeline σ ν} (h : p.LetsPanicsBy) : p.Blind :=
  ⟨fun gate hg => (h.unary gate hg).blind, fun gate hg => (h.stream gate hg).blind⟩

end

/-! ## Acts on redacted states -/

namespace Pipeline.State

variable {σ ν : Type}

theorem redact_report (e : TraceEvent) (st : State σ ν) :
    (st.report e).redact = st.redact.report e.redact := by
  simp only [redact, report, List.map_append]
  rfl

/-- The user's code does not see the journal. -/
theorem perform_redact {α : Type} (act : StateM (Own σ ν) α) (st : State σ ν) :
    perform act st.redact = ((perform act st).1, (perform act st).2.redact) := by
  have hnotes : ∀ ns : List ν, (ns.map JournalEntry.note).map JournalEntry.redact
      = ns.map JournalEntry.note := by
    intro ns
    rw [List.map_map]
    rfl
  cases hact : act { state := st.user } with
  | mk a own => simp only [perform, redact, hact, List.map_append, hnotes]

/-- Nor does counting. -/
theorem redact_count (metrics : Option Collector) (entry : Ledger → Ledger) (st : State σ ν) :
    (st.count metrics entry).redact = st.redact.count metrics entry := by
  cases metrics <;> rfl

/-- What the user's code yields can be looked at when it is done. -/
theorem perform_map {α β : Type} (f : α → β) (act : StateM (Own σ ν) α) (st : State σ ν) :
    perform (f <$> act) st = (f (perform act st).1, (perform act st).2) := rfl

end Pipeline.State

open Pipeline.State (redact_report redact_count perform_redact perform_map)

theorem ensureRequestId_redact {σ ν α : Type} (r : Request α) (st : Pipeline.State σ ν) :
    ensureRequestId r st.redact = ((ensureRequestId r st).1, (ensureRequestId r st).2.redact) := by
  rw [ensureRequestId_eq, ensureRequestId_eq]
  rfl

/-! ## Gates -/

namespace Gate

variable {σ ν ρ : Type}

/-- A view of outcomes and states without the payloads of panics. -/
abbrev Redacts (l l' : LaneLayer σ ν ρ) : Prop :=
  l.Mirrors Pipeline.State.redact Outcome.redact l'

/-- A layer that does nothing on the way out is mirrored if its way in is. -/
theorem Plain.redacts {l l' : LaneLayer σ ν ρ} (hl : Plain l)
    (henter : ∀ r st, l'.enter r st.redact = match l.enter r st with
      | (.answered outcome, st₁) => (.answered outcome.redact, st₁.redact)
      | (.passed r₁ _, st₁) => (pass r₁, st₁.redact)) : Redacts l l' := by
  intro r st
  have hin := henter r st
  rcases hl r st with ⟨outcome, ha⟩ | ⟨r₁, hp⟩
  · cases he : l.enter r st with
    | mk entered st₁ =>
      rw [he] at ha hin
      obtain rfl : entered = .answered outcome := ha
      exact hin
  · cases he : l.enter r st with
    | mk entered st₁ =>
      rw [he] at hp hin
      obtain rfl : entered = pass r₁ := hp
      exact ⟨_, hin, fun _ _ => rfl⟩

theorem recoveryLayer_redact (metrics : Option Collector) (m : Method) :
    Redacts (recoveryLayer metrics m : LaneLayer σ ν ρ) (recoveryLayer metrics m) := by
  intro r st
  simp only [recoveryLayer, ensureRequestId_redact]
  refine ⟨_, rfl, ?_⟩
  intro outcome st₁
  cases outcome with
  | returned result => rfl
  | panicked payload =>
    dsimp only
    rw [redact_count, redact_report]
    rfl

theorem admissionLayer_redact (a : Admission) (m : Method) :
    Redacts (admissionLayer a m : LaneLayer σ ν ρ) (admissionLayer a m) := by
  refine (admissionLayer_plain a m).redacts ?_
  intro r st
  simp only [admissionLayer]
  cases a.evaluateRequest r with
  | true => rfl
  | false => exact Prod.ext rfl (redact_report (.addressRejected m.fullName r.peer) st).symm

theorem rateLimitLayer_redact (g : RateGate) (m : Method) :
    Redacts (rateLimitLayer g m : LaneLayer σ ν ρ) (rateLimitLayer g m) := by
  refine (rateLimitLayer_plain g m).redacts ?_
  intro r st
  simp only [rateLimitLayer, Pipeline.State.redact]
  cases g.charge st.clock m.fullName (st.buckets.getD (g.fresh st.clock)) with
  | mk verdict buckets =>
    dsimp only
    cases verdict.opened with
    | none =>
      cases verdict.allowed with
      | true => cases verdict.group <;> rfl
      | false =>
        exact Prod.ext rfl (redact_report (.rateRejected m.fullName verdict.group)
          { st with buckets := some buckets }).symm
    | some opened =>
      have hopened := redact_report (.bucketOpened opened.1 opened.2)
        { st with buckets := some buckets }
      cases verdict.allowed with
      | true => cases verdict.group <;> exact Prod.ext rfl hopened.symm
      | false =>
        have hrejected := redact_report (.rateRejected m.fullName verdict.group)
          (Pipeline.State.report (.bucketOpened opened.1 opened.2)
            { st with buckets := some buckets })
        rw [hopened] at hrejected
        exact Prod.ext rfl hrejected.symm

theorem authenticationLayer_redact (a : Authenticator σ ν) (m : Method) :
    Redacts (authenticationLayer a m : LaneLayer σ ν ρ)
      (authenticationLayer (Authenticator.redact a) m) := by
  refine (authenticationLayer_plain a m).redacts ?_
  intro r st
  simp only [authenticationLayer, Authenticator.redact, perform_map, perform_redact]
  cases Pipeline.State.perform (a m.fullName r.metadata r.context) st with
  | mk credential st₁ =>
    cases credential with
    | failed error =>
      exact Prod.ext rfl (redact_report (.authenticationFailed m.fullName error) st₁).symm
    | accepted context | refused s | panicked payload => rfl

theorem userLayer_redact {stage : UserStage σ ν ρ} (hs : stage.Blind) (m : Method) :
    Redacts (userLayer stage m) (userLayer stage.redact m) := by
  intro r st
  simp only [userLayer, UserStage.redact, perform_map, perform_redact]
  cases he : Pipeline.State.perform (stage.enter m r) st with
  | mk entered st₁ =>
    cases entered with
    | answered outcome => rfl
    | passed r₁ leave =>
      obtain ⟨own, hentered⟩ := Pipeline.State.exists_of_perform he
      refine ⟨_, rfl, ?_⟩
      intro outcome st₂
      -- what the stage is told of a panic, struck out or not, it makes the same of
      have hleave : Outcome.redact <$> leave outcome.redact = Outcome.redact <$> leave outcome := by
        cases outcome with
        | returned result => rfl
        | panicked payload => exact (hs hentered payload).symm
      dsimp only
      rw [Outcome.redact_redact, hleave, perform_map, perform_redact]

/-- **No gate depends on the payload of a panic**, if it is not a stage that reads it. -/
theorem layer_redact {gate : Gate σ ν ρ} (hg : gate.Blind) (m : Method) :
    Redacts (gate.layer m) (gate.redact.layer m) := by
  cases gate with
  | recovery metrics => exact recoveryLayer_redact metrics m
  | admission a => exact admissionLayer_redact a m
  | rateLimit g => exact rateLimitLayer_redact g m
  | authentication a => exact authenticationLayer_redact a m
  | tagging =>
    refine Plain.redacts (fun r st => .inr ⟨_, rfl⟩) ?_
    intro r st
    simp only [layer, redact, taggingLayer, ensureRequestId_redact]
    rfl
  | span =>
    refine (spanLayer_plain m).redacts ?_
    intro r st
    exact Prod.ext rfl (redact_report (.callSpan m r.context.requestId) st).symm
  | user stage => exact userLayer_redact hg m

/-- A lane. -/
theorem run_redact {lane : List (Gate σ ν ρ)} (hl : ∀ gate ∈ lane, gate.Blind) (m : Method)
    {handler handler' : Request Payload → StateM (Pipeline.State σ ν) (Outcome ρ)}
    (hh : Mirrors Pipeline.State.redact Outcome.redact handler handler') :
    Mirrors Pipeline.State.redact Outcome.redact (run lane m handler)
      (run (lane.map redact) m handler') := by
  induction lane with
  | nil => exact hh
  | cons gate lane ih =>
    obtain ⟨hgate, hlane⟩ := List.forall_mem_cons.mp hl
    exact (layer_redact hgate m).around (ih hlane)

end Gate

/-! ## Calls -/

namespace Pipeline

variable {σ ν : Type}

theorem centre_redact {α ρ : Type} [Message α] (m : Method)
    {handler handler' : Request α → StateM (State σ ν) (Outcome ρ)}
    (hh : Mirrors State.redact Outcome.redact handler handler') :
    Mirrors State.redact Outcome.redact (centre m handler) (centre m handler') := by
  intro r st
  unfold centre
  cases (Message.ofPayload? r.message : Option α) with
  | some a => exact hh _ st
  | none => exact Prod.ext rfl (redact_report (.requestTypeChanged m.fullName) st).symm

theorem answering_redact {α β : Type} [Message β]
    (handler : Request α → StateM (Own σ ν) (Outcome (Reply β))) :
    Mirrors State.redact Outcome.redact (answering handler)
      (answering fun r => Outcome.redact <$> handler r) := by
  intro r st
  simp only [answering, perform_map, perform_redact]
  cases State.perform (handler r) st with
  | mk o st₁ => cases o <;> rfl

theorem producer_redact {α : Type} (handler : Request α → StateM (Own σ ν) Production) :
    Mirrors State.redact Outcome.redact (producer handler)
      (producer fun r => Production.redact <$> handler r) := by
  intro r st
  simp only [producer, perform_map, perform_redact]
  rfl

theorem restoreReply_redact {β : Type} [Message β] (m : Method) (o : Outcome (Reply Payload))
    (st : State σ ν) :
    @restoreReply σ ν β _ m o.redact st.redact
      = ((@restoreReply σ ν β _ m o st).1.redact, (@restoreReply σ ν β _ m o st).2.redact) := by
  unfold restoreReply
  cases o with
  | panicked payload => rfl
  | returned result =>
    cases result with
    | error s => rfl
    | ok reply =>
      simp only [Outcome.redact]
      cases (Message.ofPayload? reply.message : Option β) with
      | some b => rfl
      | none => exact Prod.ext rfl (redact_report (.replyTypeChanged m.fullName) st).symm

theorem record_redact {ρ : Type} (p : Pipeline σ ν) (m : Method) (o : Outcome ρ) (st : State σ ν) :
    p.redact.recordTime m (p.redact.recordOutcome m o.redact st.redact)
      = (p.recordTime m (p.recordOutcome m o st)).redact := by
  have hmetrics : p.redact.metrics = p.metrics := rfl
  unfold recordTime recordOutcome
  rw [hmetrics]
  cases p.metrics <;> cases o <;> rfl

theorem callUnary_redact {α β : Type} [Message α] [Message β] {p : Pipeline σ ν} (hp : p.Blind)
    (m : Method) (r : Request α) (handler : Request α → StateM (Own σ ν) (Outcome (Reply β)))
    (st : State σ ν) :
    p.redact.callUnary m r (fun r => Outcome.redact <$> handler r) st.redact
      = ((p.callUnary m r handler st).1.redact, (p.callUnary m r handler st).2.redact) := by
  have hlane := Gate.run_redact hp.unary m (centre_redact m (answering_redact handler))
    (r.map Message.toPayload) st
  rw [callUnary_eq, callUnary_eq]
  dsimp only
  rw [show p.redact.unary = p.unary.map Gate.redact from rfl, hlane]
  dsimp only
  rw [restoreReply_redact]
  exact Prod.ext rfl (record_redact p m _ _)

theorem callStream_redact {α : Type} [Message α] {p : Pipeline σ ν} (hp : p.Blind) (m : Method)
    (r : Request α)
    {handler handler' : Request α → StateM (State σ ν) (Outcome Unit)}
    (hh : Mirrors State.redact Outcome.redact handler handler') (st : State σ ν) :
    p.redact.callStream m r handler' st.redact
      = ((p.callStream m r handler st).1.redact, (p.callStream m r handler st).2.redact) := by
  have hlane := Gate.run_redact hp.stream m (centre_redact m hh) (r.map Message.toPayload) st
  rw [callStream_eq, callStream_eq]
  dsimp only
  rw [show p.redact.stream = p.stream.map Gate.redact from rfl, hlane]
  exact Prod.ext rfl (record_redact p m _ _)

theorem delivered_redact (m : Method) (sent : Option (List (Except Status Payload)))
    (o : Outcome Unit) (st : State σ ν) :
    delivered m sent o.redact st.redact
      = ((delivered m sent o st).1, (delivered m sent o st).2.redact) := by
  cases sent with
  | none =>
    cases o with
    | returned result => cases result <;> rfl
    | panicked payload => exact Prod.ext rfl (redact_report (.streamTaskFailed m.fullName) st).symm
  | some items =>
    cases o with
    | returned result => cases result <;> rfl
    | panicked payload => rfl

theorem callServerStream_redact {α : Type} [Message α] {p : Pipeline σ ν} (hp : p.Blind) (m : Method)
    (r : Request α) (handler : Request α → StateM (Own σ ν) Production) (st : State σ ν) :
    p.redact.callServerStream m r (fun r => Production.redact <$> handler r) st.redact
      = ((p.callServerStream m r handler st).1, (p.callServerStream m r handler st).2.redact) := by
  have hcall := callStream_redact hp m r (producer_redact handler) { st with outbox := none }
  rw [callServerStream_eq, callServerStream_eq]
  dsimp only
  rw [show ({ st.redact with outbox := none } : State σ ν)
    = State.redact { st with outbox := none } from rfl, hcall]
  dsimp only
  rw [show (State.redact (p.callStream m r (producer handler) { st with outbox := none }).2).outbox
    = (p.callStream m r (producer handler) { st with outbox := none }).2.outbox from rfl,
    delivered_redact]
  rfl

end Pipeline

/-! ## Answers and runs -/

/-- What a good call gives to its caller: a reply, nothing but its success where the handler owns the
stream, or the items of a stream. -/
inductive Answer where
  | reply (reply : Reply Payload)
  | done
  | items (items : List (Except Status Payload))

theorem Outcome.status?_map {ρ ρ' : Type} (f : ρ → ρ') (o : Outcome ρ) :
    (o.map f).status? = o.status? := by
  cases o with
  | returned result => cases result <;> rfl
  | panicked payload => rfl

theorem Outcome.redact_map {ρ ρ' : Type} (f : ρ → ρ') (o : Outcome ρ) :
    (o.map f).redact = o.redact.map f := by
  cases o <;> rfl

namespace Call

variable {σ ν : Type}

/-- Makes a call, for all that its caller gets. -/
def answer (p : Pipeline σ ν) : Call σ ν → StateM (Pipeline.State σ ν) (Outcome Answer)
  | @unary _ _ _ _ _ _ m r handler => fun st =>
    let made := p.callUnary m r handler st
    (made.1.map fun reply => .reply (reply.map Message.toPayload), made.2)
  | @stream _ _ _ _ m r handler => fun st =>
    let made := p.callStream m r (fun r => Pipeline.State.perform (handler r)) st
    (made.1.map fun _ => .done, made.2)
  | @serverStream _ _ _ _ m r handler => fun st =>
    let made := p.callServerStream m r handler st
    (.returned (made.1.map .items), made.2)

/-- The status with which a call fails is that of its answer. -/
theorem make_eq_answer (p : Pipeline σ ν) (k : Call σ ν) (st : Pipeline.State σ ν) :
    k.make p st = ((k.answer p st).1.status?, (k.answer p st).2) := by
  cases k with
  | unary m r handler =>
    simp only [answer, Outcome.status?_map]
    rfl
  | stream m r handler =>
    simp only [answer, Outcome.status?_map]
    rfl
  | serverStream m r handler =>
    have hstatus := Outcome.status?_map Answer.items
      (.returned (p.callServerStream m r handler st).1)
    exact Prod.ext hstatus.symm rfl

/-- **One call.** -/
theorem answer_redact {p : Pipeline σ ν} (hp : p.Blind) (k : Call σ ν) (st : Pipeline.State σ ν) :
    k.redact.answer p.redact st.redact
      = ((k.answer p st).1.redact, (k.answer p st).2.redact) := by
  cases k with
  | unary m r handler => simp only [redact, answer, Pipeline.callUnary_redact hp, Outcome.redact_map]
  | stream m r handler =>
    have hh : Mirrors Pipeline.State.redact Outcome.redact
        (fun r => Pipeline.State.perform (handler r))
        (fun r => Pipeline.State.perform (Outcome.redact <$> handler r)) := by
      intro r st
      simp only [perform_map, perform_redact]
    simp only [redact, answer, Pipeline.callStream_redact hp m r hh, Outcome.redact_map]
  | serverStream m r handler =>
    simp only [redact, answer, Pipeline.callServerStream_redact hp]
    rfl

end Call

namespace Pipeline

variable {σ ν : Type}

/-- The answers to the calls of a run. -/
def answers (p : Pipeline σ ν) (es : List (Event σ ν)) (st : State σ ν) : List (Outcome Answer) :=
  (p.calls es st).map fun x => (x.1.answer p x.2).1

/-- **A run.** Its calls are made in the same states. -/
theorem calls_redact {p : Pipeline σ ν} (hp : p.Blind) (es : List (Event σ ν)) (st : State σ ν) :
    p.redact.calls (es.map Event.redact) st.redact
      = (p.calls es st).map fun x => (x.1.redact, x.2.redact) := by
  induction es generalizing st with
  | nil => rfl
  | cons e es ih =>
    cases e with
    | wait nanos => exact ih (st.advance nanos)
    | call k =>
      have hstep : p.redact.step st.redact (Event.redact (.call k)) = (p.step st (.call k)).redact := by
        simp only [step, Event.redact, Call.make_eq_answer, Call.answer_redact hp]
      simp only [List.map_cons, Event.redact, calls] at hstep ⊢
      rw [hstep, ih]

theorem answers_redact {p : Pipeline σ ν} (hp : p.Blind) (es : List (Event σ ν)) (st : State σ ν) :
    p.redact.answers (es.map Event.redact) st.redact = (p.answers es st).map Outcome.redact := by
  simp only [answers, calls_redact hp, List.map_map, Function.comp_def, Call.answer_redact hp]

end Pipeline

/-! ## Two that differ in payloads -/

section

variable {σ ν : Type} {p p' : Pipeline σ ν}

theorem Outcome.eq_of_redact_eq {ρ : Type} {o o' : Outcome ρ} (h : o'.redact = o.redact)
    (hr : ∃ result, o = .returned result) : o' = o := by
  obtain ⟨result, rfl⟩ := hr
  cases o' with
  | returned result' => exact h
  | panicked payload => cases h

theorem Outcome.eq_of_map_redact_eq {ρ : Type} {xs ys : List (Outcome ρ)}
    (h : ys.map Outcome.redact = xs.map Outcome.redact)
    (hr : ∀ o ∈ xs, ∃ result, o = .returned result) : ys = xs := by
  induction xs generalizing ys with
  | nil => exact List.map_eq_nil_iff.mp h
  | cons o xs ih =>
    cases ys with
    | nil => cases h
    | cons o' ys =>
      obtain ⟨hhead, htail⟩ := List.cons.inj h
      rw [Outcome.eq_of_redact_eq hhead (hr o List.mem_cons_self),
        ih htail fun x hx => hr x (List.mem_cons_of_mem o hx)]

/-- A call that returns answers the same, and leaves the same behind, whatever the payloads of panics. -/
theorem Call.answer_of_redact_eq (hb : p.Blind) (hb' : p'.Blind) (hp : p'.redact = p.redact)
    {k k' : Call σ ν} (hk : k'.redact = k.redact) {st st' : Pipeline.State σ ν}
    (hst : st'.redact = st.redact)
    (hr : ∃ result, (k.answer p st).1 = .returned result) :
    (k'.answer p' st').1 = (k.answer p st).1
      ∧ (k'.answer p' st').2.redact = (k.answer p st).2.redact := by
  have hboth := k'.answer_redact hb' st'
  rw [hp, hk, hst, k.answer_redact hb st] at hboth
  obtain ⟨hanswer, hstate⟩ := Prod.mk.inj hboth
  exact ⟨Outcome.eq_of_redact_eq hanswer.symm hr, hstate.symm⟩

/-- Runs whose calls all return answer the same, whatever the payloads of panics. -/
theorem Pipeline.answers_of_redact_eq (hb : p.Blind) (hb' : p'.Blind) (hp : p'.redact = p.redact)
    {es es' : List (Event σ ν)} (hes : es'.map Event.redact = es.map Event.redact) {st st' : State σ ν}
    (hst : st'.redact = st.redact)
    (hr : ∀ o ∈ p.answers es st, ∃ result, o = .returned result) :
    p'.answers es' st' = p.answers es st := by
  have hboth := answers_redact hb' es' st'
  rw [hp, hes, hst, answers_redact hb es st] at hboth
  exact Outcome.eq_of_map_redact_eq hboth.symm hr

end

end Turnstile
