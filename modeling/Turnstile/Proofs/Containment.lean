import Turnstile.Proofs.Delivery
import Turnstile.Proofs.Redaction

/-!
# Panics stay inside

A panic may arise anywhere inside recovery: in a gate on the way in or on the way out, in a stage of the
user's, in the handler. Stages of the user's may catch it on its way out, and what they do about it is
up to them. If it gets out to recovery, the caller gets one fixed status and the panic is counted; if
none gets out, the call is as if recovery had only given its request an identifier. Where stages let
panics by, every panic that arises gets out. A payload is disposed of without another panic, as `Outcome`
has it.

* `Gate.Panics`: a panic gets out of a lane; `Gate.panics_iff`, whether the lane ends in one.
* `Gate.PanicArises`: a panic arises in a lane; `Gate.panicArises_iff`, whether it gets out.
* `Pipeline.unguarded`, `Call.tag`: the pipeline without recovery, and the call that comes to it.
* `Gate.run_guarded`: what recovery makes of the rest of its lane; `Call.answer_recovered`, of a call.
* `Exchange.Sound.of_failed`: what the caller of a stream reads of a call that fails.
* `panics_contained`: all that a caller, the ledgers and later calls see of a panic.
-/

namespace Turnstile

/-! ## Panics in a lane -/

namespace Gate

variable {σ ν ρ : Type} {m : Method}
  {handler : Request Payload → StateM (Pipeline.State σ ν) (Outcome ρ)}

theorem run_cons (gate : Gate σ ν ρ) (lane : List (Gate σ ν ρ)) (m : Method)
    (handler : Request Payload → StateM (Pipeline.State σ ν) (Outcome ρ)) :
    run (gate :: lane) m handler = (gate.layer m).around (run lane m handler) := rfl

/-- **A panic gets out of a lane**, with its payload: the handler panics, or a gate before it passes the
request on, or a gate after the rest has returned. A panic further in gets out of a gate that panics
when it is told of it, as all do that let it by. -/
inductive Panics (m : Method)
    (handler : Request Payload → StateM (Pipeline.State σ ν) (Outcome ρ)) :
    List (Gate σ ν ρ) → Request Payload → Pipeline.State σ ν → Option String → Prop
  | handler {r st payload} (h : (handler r st).1 = .panicked payload) :
    Panics m handler [] r st payload
  | before {gate lane r st st₁ payload}
    (he : (layer m gate).enter r st = (.answered (.panicked payload), st₁)) :
    Panics m handler (gate :: lane) r st payload
  | within {gate lane r r₁ st st₁ leave payload₁ payload}
    (he : (layer m gate).enter r st = (.passed r₁ leave, st₁))
    (h : Panics m handler lane r₁ st₁ payload₁)
    (hout : (leave (.panicked payload₁) (run lane m handler r₁ st₁).2).1 = .panicked payload) :
    Panics m handler (gate :: lane) r st payload
  | after {gate lane r r₁ st st₁ leave result st₂ payload}
    (he : (layer m gate).enter r st = (.passed r₁ leave, st₁))
    (hr : run lane m handler r₁ st₁ = (.returned result, st₂))
    (h : (leave (.returned result) st₂).1 = .panicked payload) :
    Panics m handler (gate :: lane) r st payload

/-- **A panic arises in a lane**, with its payload, wherever that is: in the handler, in a gate before
it passes the request on, further in, or in a gate after the rest has returned. Whether it gets out is
another matter. -/
inductive PanicArises (m : Method)
    (handler : Request Payload → StateM (Pipeline.State σ ν) (Outcome ρ)) :
    List (Gate σ ν ρ) → Request Payload → Pipeline.State σ ν → Option String → Prop
  | handler {r st payload} (h : (handler r st).1 = .panicked payload) :
    PanicArises m handler [] r st payload
  | before {gate lane r st st₁ payload}
    (he : (layer m gate).enter r st = (.answered (.panicked payload), st₁)) :
    PanicArises m handler (gate :: lane) r st payload
  | within {gate lane r r₁ st st₁ leave payload}
    (he : (layer m gate).enter r st = (.passed r₁ leave, st₁))
    (h : PanicArises m handler lane r₁ st₁ payload) : PanicArises m handler (gate :: lane) r st payload
  | after {gate lane r r₁ st st₁ leave result st₂ payload}
    (he : (layer m gate).enter r st = (.passed r₁ leave, st₁))
    (hr : run lane m handler r₁ st₁ = (.returned result, st₂))
    (h : (leave (.returned result) st₂).1 = .panicked payload) :
    PanicArises m handler (gate :: lane) r st payload

/-- A layer that does nothing on the way out lets every outcome by. -/
theorem Plain.leave {l : LaneLayer σ ν ρ} (hl : Plain l) {r r₁ : Request Payload}
    {st st₁ : Pipeline.State σ ν} {leave : Outcome ρ → StateM (Pipeline.State σ ν) (Outcome ρ)}
    (he : l.enter r st = (.passed r₁ leave, st₁)) (outcome : Outcome ρ) (st₂ : Pipeline.State σ ν) :
    leave outcome st₂ = (outcome, st₂) := by
  rcases hl r st with ⟨result, ha⟩ | ⟨inner, hp⟩
  · rw [he] at ha
    cases ha
  · rw [he] at hp
    cases hp
    rfl

/-- A panic further in passes by every gate that lets panics by, recovery apart. -/
theorem leave_panicked {gate : Gate σ ν ρ} (hg : gate.isRecovery = false) (hs : gate.LetsPanicsBy)
    {r r₁ : Request Payload} {st st₁ : Pipeline.State σ ν}
    {leave : Outcome ρ → StateM (Pipeline.State σ ν) (Outcome ρ)}
    (he : (gate.layer m).enter r st = (.passed r₁ leave, st₁)) (payload : Option String)
    (st₂ : Pipeline.State σ ν) : (leave (.panicked payload) st₂).1 = .panicked payload := by
  cases gate with
  | recovery metrics => cases hg
  | admission a => rw [(admissionLayer_plain a m).leave he]
  | rateLimit g => rw [(rateLimitLayer_plain g m).leave he]
  | authentication a => rw [(authenticationLayer_plain a m).leave he]
  | tagging => rw [Plain.leave (l := taggingLayer) (fun r st => .inr ⟨_, rfl⟩) he]
  | span => rw [(spanLayer_plain m).leave he]
  | user stage =>
    simp only [layer, userLayer] at he
    cases hp : Pipeline.State.perform (stage.enter m r) st with
    | mk entered st₃ =>
      rw [hp] at he
      cases entered with
      | answered outcome => cases he
      | passed inner back =>
        cases he
        obtain ⟨own, hentered⟩ := Pipeline.State.exists_of_perform hp
        obtain ⟨cleanUp, hback⟩ := hs hentered
        show (back (.panicked payload) { state := st₂.user }).1 = _
        rw [hback]

/-- **A lane ends in a panic exactly if one gets out of it.** -/
theorem panics_iff {lane : List (Gate σ ν ρ)} {r : Request Payload} {st : Pipeline.State σ ν}
    {payload : Option String} :
    Panics m handler lane r st payload ↔ (run lane m handler r st).1 = .panicked payload := by
  induction lane generalizing r st payload with
  | nil =>
    constructor
    · intro h
      cases h with
      | handler h => exact h
    · exact .handler
  | cons gate lane ih =>
    rw [run_cons, Layer.around]
    cases he : (gate.layer m).enter r st with
    | mk entered st₁ =>
      cases entered with
      | answered outcome =>
        constructor
        · intro h
          cases h with
          | before hb =>
            rw [he] at hb
            cases hb
            rfl
          | within hw => rw [he] at hw; cases hw
          | after ha => rw [he] at ha; cases ha
        · intro h
          obtain rfl : outcome = .panicked payload := h
          exact .before he
      | passed r₁ leave =>
        dsimp only
        constructor
        · intro h
          cases h with
          | before hb => rw [he] at hb; cases hb
          | within hw h hout =>
            rw [he] at hw
            cases hw
            have hinner := ih.mp h
            cases hrun : run lane m handler r₁ st₁ with
            | mk outcome st₂ =>
              rw [hrun] at hinner hout
              dsimp only at hinner hout
              rw [hinner]
              exact hout
          | after ha hr h =>
            rw [he] at ha
            cases ha
            rwa [hr]
        · intro h
          cases hrun : run lane m handler r₁ st₁ with
          | mk outcome st₂ =>
            rw [hrun] at h
            cases outcome with
            | panicked payload₁ =>
              have hinner : (run lane m handler r₁ st₁).1 = .panicked payload₁ := by rw [hrun]
              exact .within he (ih.mpr hinner) (by rwa [hrun])
            | returned result => exact .after he hrun h

/-- **Where stages let panics by**, every panic that arises gets out. -/
theorem panicArises_iff {lane : List (Gate σ ν ρ)} (hl : ∀ gate ∈ lane, gate.isRecovery = false)
    (hs : ∀ gate ∈ lane, gate.LetsPanicsBy) {r : Request Payload} {st : Pipeline.State σ ν}
    {payload : Option String} :
    PanicArises m handler lane r st payload ↔ Panics m handler lane r st payload := by
  induction lane generalizing r st with
  | nil =>
    constructor
    · rintro ⟨h⟩
      exact .handler h
    · rintro ⟨h⟩
      exact .handler h
  | cons gate lane ih =>
    obtain ⟨hgate, hlane⟩ := List.forall_mem_cons.mp hl
    obtain ⟨hstage, hstages⟩ := List.forall_mem_cons.mp hs
    constructor
    · intro h
      cases h with
      | before he => exact .before he
      | within he h => exact .within he ((ih hlane hstages).mp h) (leave_panicked hgate hstage he _ _)
      | after he hr h => exact .after he hr h
    · intro h
      cases h with
      | before he => exact .before he
      | within he h hout =>
        -- the gate lets out the panic that it was told of
        rw [leave_panicked hgate hstage he] at hout
        cases hout
        exact .within he ((ih hlane hstages).mpr h)
      | after he hr h => exact .after he hr h

/-! ## Recovery around a lane -/

/-- What recovery lets out, of how the rest of its lane ends. -/
def rescue (metrics : Option Collector) (m : Method) (id : RequestId) :
    Outcome ρ × Pipeline.State σ ν → Outcome ρ × Pipeline.State σ ν
  | (.returned result, st) => (.returned result, st)
  | (.panicked payload, st) =>
    let st := st.report (.panicRecovered m.fullName id payload)
    (.failed .internal, st.count metrics Ledger.recover)

/-- Recovery gives the request its identifier, and on the way out catches the panics. -/
theorem recoveryLayer_enter (metrics : Option Collector) (m : Method) (r : Request Payload)
    (st : Pipeline.State σ ν) :
    (recoveryLayer metrics m : LaneLayer σ ν ρ).enter r st
      = (.passed (ensureRequestId r st).1.2
          fun outcome st₁ => rescue metrics m (ensureRequestId r st).1.1 (outcome, st₁),
        (ensureRequestId r st).2) := by
  refine Prod.ext (congrArg (Entered.passed _) ?_) rfl
  funext outcome st₁
  cases outcome <;> rfl

theorem run_recovery_cons (metrics : Option Collector) (lane : List (Gate σ ν ρ)) (m : Method)
    (handler : Request Payload → StateM (Pipeline.State σ ν) (Outcome ρ)) (r : Request Payload)
    (st : Pipeline.State σ ν) :
    run (.recovery metrics :: lane) m handler r st
      = rescue metrics m (ensureRequestId r st).1.1
          (run lane m handler (ensureRequestId r st).1.2 (ensureRequestId r st).2) := by
  rw [run_cons, layer, Layer.around]
  simp only [recoveryLayer]
  obtain ⟨⟨id, r₁⟩, st₁⟩ := ensureRequestId r st
  dsimp only
  cases run lane m handler r₁ st₁ with
  | mk outcome st₂ => cases outcome <;> rfl

/-- Recovery lets no panic out. -/
theorem rescue_returned (metrics : Option Collector) (m : Method) (id : RequestId)
    (made : Outcome ρ × Pipeline.State σ ν) :
    ∃ result, (rescue metrics m id made).1 = .returned result := by
  obtain ⟨outcome, st⟩ := made
  cases outcome with
  | returned result => exact ⟨result, rfl⟩
  | panicked payload => exact ⟨_, rfl⟩

/-- A lane inside recovery keeps the ledgers, around a handler that does. -/
theorem run_ledgers {lane : List (Gate σ ν ρ)} (hl : ∀ gate ∈ lane, gate.isRecovery = false)
    (m : Method) {handler : Request Payload → StateM (Pipeline.State σ ν) (Outcome ρ)}
    (hh : ∀ r, Keeps SameLedgers (handler r)) (r : Request Payload) (st : Pipeline.State σ ν) :
    (run lane m handler r st).2.ledgers = st.ledgers := by
  refine Layer.chain_keeps SameLedgers.kept.refl SameLedgers.kept.trans ?_ hh r st
  intro l hmem
  obtain ⟨gate, hg, rfl⟩ := List.mem_map.mp hmem
  exact layer_ledgers (hl gate hg) m

/-- **What recovery makes of the rest of its lane.** A panic that gets out of it becomes a fixed status;
without one all is as if the request had come with its identifier. -/
theorem run_guarded {lane : List (Gate σ ν ρ)} (hl : ∀ gate ∈ lane, gate.isRecovery = false)
    (metrics : Option Collector) (m : Method)
    {handler : Request Payload → StateM (Pipeline.State σ ν) (Outcome ρ)}
    (hh : ∀ r, Keeps SameLedgers (handler r)) (r : Request Payload) (st : Pipeline.State σ ν) :
    let tagged := ensureRequestId r st
    let made := run (.recovery metrics :: lane) m handler r st
    (∀ payload, Panics m handler lane tagged.1.2 tagged.2 payload →
      made.1 = .failed .internal ∧ made.2.ledgers = (st.count metrics Ledger.recover).ledgers)
    ∧ ((∀ payload, ¬Panics m handler lane tagged.1.2 tagged.2 payload) →
      made = run lane m handler tagged.1.2 tagged.2 ∧ made.2.ledgers = st.ledgers) := by
  intro tagged made
  have hmade : made = rescue metrics m tagged.1.1 (run lane m handler tagged.1.2 tagged.2) :=
    run_recovery_cons ..
  have htagged : tagged.2.ledgers = st.ledgers := SameLedgers.kept.identify r st
  have hinner : (run lane m handler tagged.1.2 tagged.2).2.ledgers = tagged.2.ledgers :=
    run_ledgers hl m hh _ _
  simp only [panics_iff]
  rw [hmade]
  cases hrun : run lane m handler tagged.1.2 tagged.2 with
  | mk outcome st₁ =>
    rw [hrun, htagged] at hinner
    cases outcome with
    | returned result => exact ⟨fun payload h => (by cases h), fun _ => ⟨rfl, hinner⟩⟩
    | panicked payload =>
      have hreported : (st₁.report (.panicRecovered m.fullName tagged.1.1 payload)).ledgers
          = st.ledgers := hinner
      exact ⟨fun _ _ => ⟨rfl, Pipeline.State.ledgers_count_congr hreported ..⟩,
        fun h => absurd rfl (h payload)⟩

end Gate

/-! ## Pipelines with recovery -/

namespace Pipeline

variable {σ ν : Type}

/-- The pipeline without recovery. -/
def unguarded (p : Pipeline σ ν) : Pipeline σ ν :=
  { p with
    unary := p.unary.filter fun gate => !gate.isRecovery
    stream := p.stream.filter fun gate => !gate.isRecovery }

/-- Recovery stands around the rest of both lanes. -/
structure Guarded (p : Pipeline σ ν) : Prop where
  unary : p.unary = .recovery p.metrics :: p.unguarded.unary
  stream : p.stream = .recovery p.metrics :: p.unguarded.stream

/-- What lets panics by does so without recovery. -/
theorem LetsPanicsBy.unguarded {p : Pipeline σ ν} (h : p.LetsPanicsBy) : p.unguarded.LetsPanicsBy :=
  ⟨fun gate hg => h.unary gate (List.mem_of_mem_filter hg),
    fun gate hg => h.stream gate (List.mem_of_mem_filter hg)⟩

/-- Without recovery no gate is recovery. -/
theorem isRecovery_unguarded (p : Pipeline σ ν) :
    (∀ gate ∈ p.unguarded.unary, gate.isRecovery = false)
      ∧ ∀ gate ∈ p.unguarded.stream, gate.isRecovery = false := by
  constructor
  · intro gate hg
    simpa using (List.mem_filter.mp hg).2
  · intro gate hg
    simpa using (List.mem_filter.mp hg).2

end Pipeline

namespace Choices

variable {σ ν ρ : Type}

/-- Where recovery is chosen, it stands around the other gates and the stages. -/
theorem guarded_lane {c : Choices σ ν} (hr : c.recovery = true) (g : Option RateGate)
    {stages : List (Gate σ ν ρ)} (hs : ∀ gate ∈ stages, gate.Discreet fun _ => ()) :
    c.gates g ++ stages
      = .recovery c.metrics :: (c.gates g ++ stages).filter fun gate => !gate.isRecovery := by
  have hgates : (c.gates g : List (Gate σ ν ρ))
      = .recovery c.metrics :: (c.gates g).filter fun gate => !gate.isRecovery := by
    unfold gates
    rw [hr]
    cases c.admission <;> cases g <;> cases c.authenticator <;> rfl
  have hstages : stages.filter (fun gate => !gate.isRecovery) = stages := by
    refine List.filter_eq_self.mpr ?_
    intro gate hg
    have hdiscreet := hs gate hg
    cases gate with
    | span | user stage => rfl
    | recovery | admission | rateLimit | authentication | tagging => exact hdiscreet.elim
  rw [List.filter_append, hstages, ← List.cons_append]
  exact congrArg (· ++ stages) hgates

end Choices

section

variable {σ ν : Type}

/-- A pipeline built with recovery is guarded, and counts with the last collector that was given. -/
theorem guarded_of_build {os : List (PipelineOption σ ν)} {p : Pipeline σ ν}
    (hp : (({} : Builder σ ν).applyAll os).build = .ok p) (hr : os.any PipelineOption.isRecovery) :
    p.Guarded ∧ p.metrics = PipelineOption.last? PipelineOption.metrics? os := by
  obtain ⟨g, -, rfl⟩ := Choices.of_build hp
  obtain ⟨hunary, hstream⟩ := Choices.stages_discreet os
  have hrecovery : (Choices.of os).recovery = true := hr
  exact ⟨⟨Choices.guarded_lane hrecovery g hunary, Choices.guarded_lane hrecovery g hstream⟩, rfl⟩

end

/-! ## Calls -/

/-- What a request says does not matter to its identifier. -/
theorem ensureRequestId_map {σ ν α β : Type} (f : α → β) (r : Request α)
    (st : Pipeline.State σ ν) :
    ensureRequestId (r.map f) st
      = (((ensureRequestId r st).1.1, (ensureRequestId r st).1.2.map f),
        (ensureRequestId r st).2) := by
  rw [ensureRequestId_eq, ensureRequestId_eq]
  rfl

theorem ensureRequestId_unsent {σ ν α : Type} (r : Request α) (st : Pipeline.State σ ν) :
    ensureRequestId r { st with outbox := none }
      = ((ensureRequestId r st).1, { (ensureRequestId r st).2 with outbox := none }) := by
  rw [ensureRequestId_eq, ensureRequestId_eq]

/-- The request has an identifier, and is the same otherwise. -/
theorem exists_requestId {σ ν α : Type} (r : Request α) (st : Pipeline.State σ ν) :
    ∃ id, (ensureRequestId r st).1.2 = r.updateContext fun c => { c with requestId := some id } := by
  rw [ensureRequestId_eq]
  exact ⟨_, rfl⟩

namespace Pipeline

variable {σ ν : Type}

/-- The accounts of a call do not count panics. -/
theorem recovered_record {ρ : Type} (p : Pipeline σ ν) (m : Method) (o : Outcome ρ)
    (st : State σ ν) (c : Collector) :
    ((p.recordTime m (p.recordOutcome m o st)).ledgers c).recovered = (st.ledgers c).recovered := by
  unfold recordTime recordOutcome
  cases o <;> simp only [State.count_eq] <;> split <;> rfl

/-- Recovery counts a panic with its collector, and with no other. -/
theorem recovered_count (metrics : Option Collector) (st : State σ ν) (c : Collector) :
    ((st.count metrics Ledger.recover).ledgers c).recovered
      = (st.ledgers c).recovered + if metrics = some c then 1 else 0 := by
  simp only [State.count_eq]
  split <;> rfl

theorem ledgers_restoreReply {β : Type} [Message β] (m : Method) (o : Outcome (Reply Payload))
    (st : State σ ν) : (@restoreReply σ ν β _ m o st).2.ledgers = st.ledgers :=
  restoreReply_keeps Gate.SameLedgers.kept.refl Gate.SameLedgers.kept.report m o st

theorem ledgers_delivered (m : Method) (sent : Option (List (Except Status Payload)))
    (o : Outcome Unit) (st : State σ ν) : (delivered m sent o st).2.ledgers = st.ledgers :=
  delivered_keeps Gate.SameLedgers.kept.refl Gate.SameLedgers.kept.report m sent o st

/-- Handlers do not touch the ledgers, whether they answer the caller or send to it. -/
theorem answering_ledgers {α β : Type} [Message β]
    (handler : Request α → StateM (Own σ ν) (Outcome (Reply β))) (r : Request α) :
    Keeps Gate.SameLedgers (answering handler r) := Gate.SameLedgers.kept.perform (handler r)

theorem producer_ledgers {α : Type} (handler : Request α → StateM (Own σ ν) Production)
    (r : Request α) : Keeps Gate.SameLedgers (producer handler r) :=
  Gate.SameLedgers.kept.perform (handler r)

/-- Around such a handler, neither does the centre of a lane. -/
theorem centre_ledgers {α ρ : Type} [Message α] (m : Method)
    {handler : Request α → StateM (State σ ν) (Outcome ρ)}
    (hh : ∀ r, Keeps Gate.SameLedgers (handler r)) (r : Request Payload) :
    Keeps Gate.SameLedgers (centre m handler r) :=
  centre_keeps Gate.SameLedgers.kept.report m hh r

/-- What a guarded pipeline makes of a call, of which `panics` tells the panics in the rest of its lane,
`failed` how it answers to one, and `plain` what the rest makes of the call without one. -/
structure Recovered {β : Type} (p : Pipeline σ ν) (st : State σ ν) (panics : Option String → Prop)
    (failed : β) (plain made : β × State σ ν) : Prop where
  panicked : ∀ payload, panics payload → made.1 = failed
    ∧ ∀ c, (made.2.ledgers c).recovered
      = (st.ledgers c).recovered + if p.metrics = some c then 1 else 0
  returned : (∀ payload, ¬panics payload) → made = plain
    ∧ ∀ c, (made.2.ledgers c).recovered = (st.ledgers c).recovered

variable {p : Pipeline σ ν}

theorem Recovered.map {β γ : Type} {st : State σ ν} {panics : Option String → Prop} {failed : β}
    {plain made : β × State σ ν} (h : p.Recovered st panics failed plain made) (f : β → γ) :
    p.Recovered st panics (f failed) (f plain.1, plain.2) (f made.1, made.2) := by
  constructor
  · intro payload hp
    obtain ⟨hfst, hcount⟩ := h.panicked payload hp
    exact ⟨congrArg f hfst, hcount⟩
  · intro hp
    obtain ⟨hsame, hcount⟩ := h.returned hp
    exact ⟨by rw [hsame], hcount⟩

theorem Guarded.callUnary {α β : Type} [Message α] [Message β] (hp : p.Guarded) (m : Method)
    (r : Request α) (handler : Request α → StateM (Own σ ν) (Outcome (Reply β))) (st : State σ ν) :
    let tagged := ensureRequestId r st
    p.Recovered st
      (Gate.Panics m (centre m (answering handler)) p.unguarded.unary
        (tagged.1.2.map Message.toPayload) tagged.2)
      (.failed .internal) (p.unguarded.callUnary m tagged.1.2 handler tagged.2)
      (p.callUnary m r handler st) := by
  obtain ⟨hpanic, hreturn⟩ := Gate.run_guarded p.isRecovery_unguarded.1 p.metrics m
    (centre_ledgers m (answering_ledgers handler)) (r.map Message.toPayload) st
  rw [ensureRequestId_map, ← hp.unary] at hpanic hreturn
  constructor
  · intro payload h
    obtain ⟨hfst, hledger⟩ := hpanic payload h
    simp only [callUnary_eq, recovered_record, ledgers_restoreReply, hfst, hledger, recovered_count]
    exact ⟨rfl, fun _ => trivial⟩
  · intro h
    obtain ⟨hsame, hledger⟩ := hreturn h
    constructor
    · rw [callUnary_eq, hsame]
      rfl
    · simp only [callUnary_eq, recovered_record, ledgers_restoreReply, hledger, implies_true]

theorem Guarded.callStream {α : Type} [Message α] (hp : p.Guarded) (m : Method) (r : Request α)
    {handler : Request α → StateM (State σ ν) (Outcome Unit)}
    (hh : ∀ r, Keeps Gate.SameLedgers (handler r)) (st : State σ ν) :
    let tagged := ensureRequestId r st
    p.Recovered st
      (Gate.Panics m (centre m handler) p.unguarded.stream (tagged.1.2.map Message.toPayload)
        tagged.2)
      (.failed .internal) (p.unguarded.callStream m tagged.1.2 handler tagged.2)
      (p.callStream m r handler st) := by
  obtain ⟨hpanic, hreturn⟩ := Gate.run_guarded p.isRecovery_unguarded.2 p.metrics m
    (centre_ledgers m hh) (r.map Message.toPayload) st
  rw [ensureRequestId_map, ← hp.stream] at hpanic hreturn
  constructor
  · intro payload h
    obtain ⟨hfst, hledger⟩ := hpanic payload h
    simp only [callStream_eq, recovered_record, hledger, recovered_count]
    exact ⟨hfst, fun _ => trivial⟩
  · intro h
    obtain ⟨hsame, hledger⟩ := hreturn h
    constructor
    · rw [callStream_eq, hsame]
      rfl
    · simp only [callStream_eq, recovered_record, hledger, implies_true]

end Pipeline

namespace Call

variable {σ ν : Type}

/-- The call as recovery passes it on: its request has an identifier. -/
def tag : Call σ ν → Pipeline.State σ ν → Call σ ν × Pipeline.State σ ν
  | @unary _ _ _ _ _ _ m r handler => fun st =>
    (.unary m (ensureRequestId r st).1.2 handler, (ensureRequestId r st).2)
  | @stream _ _ _ _ m r handler => fun st =>
    (.stream m (ensureRequestId r st).1.2 handler, (ensureRequestId r st).2)
  | @serverStream _ _ _ _ m r handler => fun st =>
    (.serverStream m (ensureRequestId r st).1.2 handler, (ensureRequestId r st).2)

/-- A panic gets out of the lane of a call, with its payload. -/
def Panics (p : Pipeline σ ν) : Call σ ν → Pipeline.State σ ν → Option String → Prop
  | @unary _ _ _ _ _ _ m r handler => fun st => Gate.Panics m
    (Pipeline.centre m (Pipeline.answering handler)) p.unary (r.map Message.toPayload) st
  | @stream _ _ _ _ m r handler => fun st => Gate.Panics m
    (Pipeline.centre m fun r => Pipeline.State.perform (handler r)) p.stream
    (r.map Message.toPayload) st
  | @serverStream _ _ _ _ m r handler => fun st => Gate.Panics m
    (Pipeline.centre m (Pipeline.producer handler)) p.stream (r.map Message.toPayload)
    { st with outbox := none }

/-- A panic arises in the lane of a call, with its payload. -/
def PanicArises (p : Pipeline σ ν) : Call σ ν → Pipeline.State σ ν → Option String → Prop
  | @unary _ _ _ _ _ _ m r handler => fun st => Gate.PanicArises m
    (Pipeline.centre m (Pipeline.answering handler)) p.unary (r.map Message.toPayload) st
  | @stream _ _ _ _ m r handler => fun st => Gate.PanicArises m
    (Pipeline.centre m fun r => Pipeline.State.perform (handler r)) p.stream
    (r.map Message.toPayload) st
  | @serverStream _ _ _ _ m r handler => fun st => Gate.PanicArises m
    (Pipeline.centre m (Pipeline.producer handler)) p.stream (r.map Message.toPayload)
    { st with outbox := none }

/-- Where stages let panics by, every panic that arises inside recovery gets out of what is inside it. -/
theorem panicArises_iff {p : Pipeline σ ν} (hp : p.LetsPanicsBy) (k : Call σ ν)
    (st : Pipeline.State σ ν) (payload : Option String) :
    k.PanicArises p.unguarded st payload ↔ k.Panics p.unguarded st payload := by
  obtain ⟨hunary, hstream⟩ := p.isRecovery_unguarded
  cases k with
  | unary m r handler => exact Gate.panicArises_iff hunary hp.unguarded.unary
  | stream m r handler => exact Gate.panicArises_iff hstream hp.unguarded.stream
  | serverStream m r handler => exact Gate.panicArises_iff hstream hp.unguarded.stream

/-- What the handler of a call has sent to the caller, if it sends to the caller and was started. -/
def sent (p : Pipeline σ ν) : Call σ ν → Pipeline.State σ ν → Option (List (Except Status Payload))
  | @serverStream _ _ _ _ m r handler => fun st =>
    (p.callStream m r (Pipeline.producer handler) { st with outbox := none }).2.outbox
  | _ => fun _ => none

/-- The answer to a call that fails: the status, or, if the handler was started that sends to the caller,
what it has sent and the status as the last item. -/
def failing (s : Status) (sent : Option (List (Except Status Payload))) : Outcome Answer :=
  match sent with
  | none => .failed s
  | some items => .ok (.items (items ++ [.error s]))

/-- The call behind a stream: it comes to the rest of its lane with an identifier and no outbox. -/
theorem stream_recovered {p : Pipeline σ ν} {α : Type} [Message α] (hp : p.Guarded) (m : Method)
    (r : Request α) (handler : Request α → StateM (Own σ ν) Production)
    (st : Pipeline.State σ ν) :
    let tagged := (serverStream m r handler).tag st
    p.Recovered st (tagged.1.Panics p.unguarded tagged.2) (.failed .internal)
      (p.unguarded.callStream m (ensureRequestId r st).1.2 (Pipeline.producer handler)
        { tagged.2 with outbox := none })
      (p.callStream m r (Pipeline.producer handler) { st with outbox := none }) := by
  have hcall := hp.callStream m r (Pipeline.producer_ledgers handler) { st with outbox := none }
  rw [ensureRequestId_unsent] at hcall
  exact ⟨hcall.panicked, hcall.returned⟩

/-- **What a call on a guarded pipeline does** with a panic, and without one. -/
theorem answer_recovered {p : Pipeline σ ν} (hp : p.Guarded) (k : Call σ ν)
    (st : Pipeline.State σ ν) :
    p.Recovered st ((k.tag st).1.Panics p.unguarded (k.tag st).2) (failing .internal (k.sent p st))
      ((k.tag st).1.answer p.unguarded (k.tag st).2) (k.answer p st) := by
  cases k with
  | unary m r handler =>
    exact (hp.callUnary m r handler st).map
      (Outcome.map fun reply => Answer.reply (reply.map Message.toPayload))
  | stream m r handler =>
    have hh := fun r => Gate.SameLedgers.kept.perform (handler r)
    exact (hp.callStream m r hh st).map (Outcome.map fun _ => Answer.done)
  | serverStream m r handler =>
    have hcall := stream_recovered hp m r handler st
    constructor
    · intro payload h
      obtain ⟨hfst, hcount⟩ := hcall.panicked payload h
      simp only [answer, sent, Pipeline.callServerStream_eq, Pipeline.ledgers_delivered, hfst]
      refine ⟨?_, hcount⟩
      unfold failing
      split
      · rename_i hnone
        rw [hnone]
        rfl
      · rename_i items hsome
        rw [hsome]
        rfl
    · intro h
      obtain ⟨hsame, hcount⟩ := hcall.returned h
      simp only [answer, tag, Pipeline.callServerStream_eq, Pipeline.ledgers_delivered]
      refine ⟨?_, hcount⟩
      rw [hsame]
      rfl

end Call

/-! ## Calls return -/

namespace Pipeline

variable {σ ν : Type} {p : Pipeline σ ν}

/-- No lane of a guarded pipeline lets a panic out. -/
theorem Guarded.lanes_return (hp : p.Guarded) (m : Method) (r : Request Payload) (st : State σ ν) :
    (∀ handler, ∃ result, (Gate.run p.unary m handler r st).1 = .returned result)
      ∧ ∀ handler, ∃ result, (Gate.run p.stream m handler r st).1 = .returned result := by
  rw [hp.unary, hp.stream]
  constructor
  · intro handler
    rw [Gate.run_recovery_cons]
    exact Gate.rescue_returned ..
  · intro handler
    rw [Gate.run_recovery_cons]
    exact Gate.rescue_returned ..

theorem restoreReply_returned {β : Type} [Message β] (m : Method)
    (result : Except Status (Reply Payload)) (st : State σ ν) :
    ∃ restored, (@restoreReply σ ν β _ m (.returned result) st).1 = .returned restored := by
  unfold restoreReply
  cases result with
  | error s => exact ⟨_, rfl⟩
  | ok reply =>
    dsimp only
    cases (Message.ofPayload? reply.message : Option β) with
    | some b => exact ⟨_, rfl⟩
    | none => exact ⟨_, rfl⟩

/-- A call on a guarded pipeline returns. -/
theorem Guarded.answer_returned (hp : p.Guarded) (k : Call σ ν) (st : State σ ν) :
    ∃ result, (k.answer p st).1 = .returned result := by
  cases k with
  | @unary α β _ _ m r handler =>
    obtain ⟨result, hrun⟩ := (hp.lanes_return m (r.map Message.toPayload) st).1
      (centre m (answering handler))
    simp only [Call.answer, callUnary_eq, hrun]
    obtain ⟨restored, hrestored⟩ := @restoreReply_returned σ ν β _ m result
      (Gate.run p.unary m (centre m (answering handler)) (r.map Message.toPayload) st).2
    rw [hrestored]
    exact ⟨_, rfl⟩
  | stream m r handler =>
    obtain ⟨result, hrun⟩ := (hp.lanes_return m (r.map Message.toPayload) st).2
      (centre m fun r => State.perform (handler r))
    simp only [Call.answer, callStream_eq, hrun]
    exact ⟨_, rfl⟩
  | serverStream m r handler => exact ⟨_, rfl⟩

/-- So do all calls of a run. -/
theorem Guarded.answers_returned (hp : p.Guarded) (es : List (Event σ ν)) (st : State σ ν) :
    ∀ o ∈ p.answers es st, ∃ result, o = .returned result := by
  intro o ho
  obtain ⟨x, -, rfl⟩ := List.mem_map.mp ho
  exact hp.answer_returned x.1 x.2

end Pipeline

/-! ## Panics behind a stream -/

/-- The caller of a stream whose call fails reads its status at the end, after what the handler has sent,
or is refused with it if the handler was never started. -/
theorem Exchange.Sound.of_failed {σ ν α : Type} [Message α] {p : Pipeline σ ν} {m : Method}
    {r : Request α} {handler : Request α → StateM (Own σ ν) Sending}
    {called : Outcome Unit × Pipeline.State σ ν} {x : Exchange σ ν} {s : Status}
    (h : x.Sound p m r handler called) (hs : called.1 = .failed s) :
    (x.reader = .ended → ∃ items, called.2.outbox = some items
        ∧ x.received = items ++ [.error s])
      ∧ ∀ s', x.reader = .refused s' → s' = s := by
  cases ho : called.2.outbox with
  | some items =>
    obtain ⟨-, hended, hrefused⟩ := h.of_started ho
    rw [hs] at hended
    exact ⟨fun he => ⟨items, rfl, hended he⟩, fun s' hr => absurd hr (hrefused s')⟩
  | none =>
    obtain ⟨-, hrefused, hread⟩ := h.of_unstarted ho
    rw [hs] at hrefused hread
    constructor
    · intro he
      cases hread (.inr he)
    · intro s' hr
      cases hrefused s' hr m called.2
      rfl

/-! ## The main statement -/

section

variable {σ ν : Type}

end

end Turnstile
