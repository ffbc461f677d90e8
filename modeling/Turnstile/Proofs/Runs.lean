import Turnstile.Proofs.Isolation
import Turnstile.Proofs.Precedence

/-!
# Runs of a pipeline

In a run time passes and calls are made, on either lane and with any handlers. Every call meets with the
fate that the gates give it, and draws from the buckets only what its ruling says, whatever the stages
and the handler do.

* `Call`: a call of any kind, and `Call.make`, which makes it.
* `Call.make_rejected`, `Call.make_settles`: what a call does, by its ruling.
* `Pipeline.run`, `Pipeline.calls`: a run, and its calls with the states in which they are made.
* `gates_decide_runs`: fates, consultations and buckets in every run.
-/

namespace Turnstile

open Pipeline.State (Steady Unnoticed Core)

/-! ## Calls -/

/-- A call that can be made on a pipeline. -/
inductive Call (σ ν : Type) : Type 1 where
  | unary {α β : Type} [Message α] [Message β] (m : Method) (r : Request α)
    (handler : Request α → StateM (Own σ ν) (Outcome (Reply β)))
  | stream {α : Type} [Message α] (m : Method) (r : Request α)
    (handler : Request α → StateM (Own σ ν) (Outcome Unit))
  | serverStream {α : Type} [Message α] (m : Method) (r : Request α)
    (handler : Request α → StateM (Own σ ν) Production)

/-- The status of an outcome, if it failed with one. -/
def Outcome.status? {ρ : Type} : Outcome ρ → Option Status
  | .returned (.error s) => some s
  | _ => none

namespace Call

variable {σ ν τ : Type}

/-- The method that is called. -/
def method : Call σ ν → Method
  | @unary _ _ _ _ _ _ m _ _ => m
  | @stream _ _ _ _ m _ _ => m
  | @serverStream _ _ _ _ m _ _ => m

/-- The request of a call as the lane sees it. -/
def request : Call σ ν → Request Payload
  | @unary _ _ _ _ _ _ _ r _ => r.map Message.toPayload
  | @stream _ _ _ _ _ r _ => r.map Message.toPayload
  | @serverStream _ _ _ _ _ r _ => r.map Message.toPayload

/-- Makes a call. The result is the status with which it fails, if it does. -/
def make (p : Pipeline σ ν) : Call σ ν → StateM (Pipeline.State σ ν) (Option Status)
  | @unary _ _ _ _ _ _ m r handler => fun st =>
    let (outcome, st) := p.callUnary m r handler st
    (outcome.status?, st)
  | @stream _ _ _ _ m r handler => fun st =>
    let (outcome, st) := p.callStream m r (fun r => Pipeline.State.perform (handler r)) st
    (outcome.status?, st)
  | @serverStream _ _ _ _ m r handler => fun st =>
    let (answer, st) := p.callServerStream m r handler st
    ((Outcome.returned answer).status?, st)

/-- An observer of the user's state does not notice the handler of a call. -/
def Discreet (observe : σ → τ) : Call σ ν → Prop
  | @unary _ _ _ _ _ _ _ _ handler => ∀ r, Unnoticed observe (handler r)
  | @stream _ _ _ _ _ _ handler => ∀ r, Unnoticed observe (handler r)
  | @serverStream _ _ _ _ _ _ handler => ∀ r, Unnoticed observe (handler r)

theorem discreet_unit (k : Call σ ν) : k.Discreet fun _ => () := by
  cases k <;> exact fun _ _ => rfl

end Call

/-! ## What surrounds a lane -/

namespace Pipeline

variable {σ ν τ ρ : Type} {observe : σ → τ}

@[simp] theorem core_recordTime (p : Pipeline σ ν) (m : Method) (st : State σ ν) :
    (p.recordTime m st).core = st.core := by
  simp only [recordTime, State.core_count]

@[simp] theorem core_recordOutcome (p : Pipeline σ ν) (m : Method) (o : Outcome ρ)
    (st : State σ ν) : (p.recordOutcome m o st).core = st.core := by
  unfold recordOutcome
  cases o with
  | returned result => exact State.core_count ..
  | panicked payload => rfl

@[simp] theorem core_restoreReply {β : Type} [Message β] (m : Method) (o : Outcome (Reply Payload))
    (st : State σ ν) : (restoreReply m o st : Outcome (Reply β) × State σ ν).2.core = st.core :=
  restoreReply_keeps (P := fun st st' => st'.core = st.core) (fun _ => rfl) State.core_report m o st

/-- What a unary call does, its lane does. -/
theorem core_callUnary {α β : Type} [Message α] [Message β] (p : Pipeline σ ν) (m : Method)
    (r : Request α) (handler : Request α → StateM (Own σ ν) (Outcome (Reply β))) (st : State σ ν) :
    (p.callUnary m r handler st).2.core
      = (Gate.run p.unary m (centre m (answering handler)) (r.map Message.toPayload) st).2.core := by
  rw [callUnary_eq]
  simp only [core_recordTime, core_recordOutcome, core_restoreReply]

/-- What a call of a stream does, its lane does. -/
theorem core_callStream {α : Type} [Message α] (p : Pipeline σ ν) (m : Method) (r : Request α)
    (handler : Request α → StateM (State σ ν) (Outcome Unit)) (st : State σ ν) :
    (p.callStream m r handler st).2.core
      = (Gate.run p.stream m (centre m handler) (r.map Message.toPayload) st).2.core := by
  rw [callStream_eq]
  simp only [core_recordTime, core_recordOutcome]

/-- A call whose handler was never started answers with the status with which it failed. -/
theorem callServerStream_of_failed {α : Type} [Message α] {p : Pipeline σ ν} {m : Method}
    {r : Request α} {handler : Request α → StateM (Own σ ν) Production} {st : State σ ν} {s : Status}
    (ho : (p.callStream m r (producer handler) { st with outbox := none }).1 = .failed s)
    (hn : (p.callStream m r (producer handler) { st with outbox := none }).2.outbox = none) :
    p.callServerStream m r handler st
      = (.error s, { (p.callStream m r (producer handler) { st with outbox := none }).2 with
          outbox := none }) := by
  simp only [callServerStream_eq, ho, hn]
  rfl

theorem steady_of_core_eq {st st' : State σ ν} (h : st'.core = st.core) : Steady observe st st' :=
  ⟨congrArg State.Core.clock h, congrArg State.Core.buckets h,
    congrArg (fun core => observe core.user) h⟩

theorem report_steady (e : TraceEvent) (st : State σ ν) : Steady observe st (st.report e) :=
  steady_of_core_eq (State.core_report e st)

theorem delivered_steady (m : Method) (sent : Option (List (Except Status Payload))) (o : Outcome Unit)
    (st : State σ ν) : Steady observe st (delivered m sent o st).2 :=
  delivered_keeps Steady.refl report_steady m sent o st

end Pipeline

/-! ## One call -/

namespace Ruling

variable {σ ν τ : Type}

/-- The state after a call goes by a ruling: no time has passed, the buckets are as the ruling leaves
them, and so is the user's state to an observer. -/
structure Settled (observe : σ → τ) (d : Ruling σ ν) (st st' : Pipeline.State σ ν) : Prop where
  clock : st'.clock = st.clock
  buckets : st'.buckets = d.buckets
  observed : observe st'.user = observe d.own.state

theorem Settled.steady {observe : σ → τ} {d : Ruling σ ν} {st st' st'' : Pipeline.State σ ν}
    (h : d.Settled observe st st') (hs : Steady observe st' st'') : d.Settled observe st st'' :=
  ⟨hs.clock.trans h.clock, hs.buckets.trans h.buckets, hs.observed.trans h.observed⟩

end Ruling

namespace Choices

variable {σ ν ρ τ : Type} {c : Choices σ ν} {g : Option RateGate}
  {lane stages : List (Gate σ ν ρ)}

/-- A lane ends a rejected request with the status of the gate, and nothing happens besides what the
ruling says. -/
theorem Governs.rejected (h : c.Governs g lane stages) {m : Method} {r : Request Payload}
    {st : Pipeline.State σ ν} {s : Status} (hs : (c.ruling g m r st).fate.rejection? = some s)
    (handler : Request Payload → StateM (Pipeline.State σ ν) (Outcome ρ)) :
    (Gate.run lane m handler r st).1 = .failed s
      ∧ (Gate.run lane m handler r st).2.core = (c.ruling g m r st).core st := by
  obtain ⟨context, st', hcore, hrun⟩ := h.ends m handler r st
  rw [Fate.end?_of_rejection? hs] at hrun
  exact ⟨hrun.1, hrun.2.trans hcore⟩

/-- Whatever the fate of a request, a lane leaves the clock and the buckets as the ruling says. -/
theorem Governs.settles (h : c.Governs g lane stages) {observe : σ → τ}
    (hstages : ∀ gate ∈ stages, gate.Discreet observe)
    {handler : Request Payload → StateM (Pipeline.State σ ν) (Outcome ρ)}
    (hh : ∀ r, Keeps (Steady observe) (handler r)) (m : Method) (r : Request Payload)
    (st : Pipeline.State σ ν) :
    (c.ruling g m r st).Settled observe st (Gate.run lane m handler r st).2 := by
  obtain ⟨context, st', hcore, -, hsnd⟩ := h.ends m handler r st
  have hsettled : (c.ruling g m r st).Settled observe st st' :=
    ⟨congrArg Core.clock hcore, congrArg Core.buckets hcore,
      congrArg (fun core => observe core.user) hcore⟩
  cases he : ((c.ruling g m r st).fate.end? : Option (Outcome ρ)) with
  | some outcome =>
    rw [he] at hsnd
    exact hsettled.steady (Pipeline.steady_of_core_eq hsnd)
  | none =>
    rw [he] at hsnd
    have hinner := Gate.run_steady hstages m hh { r with context } st'
    exact (hsettled.steady hinner).steady (Pipeline.steady_of_core_eq hsnd)

/-- Both lanes of a pipeline go by the rulings, around the stages of the choices. -/
structure Rules (c : Choices σ ν) (g : Option RateGate) (p : Pipeline σ ν) : Prop where
  unary : c.Governs g p.unary c.unaryStages
  stream : c.Governs g p.stream c.streamStages

/-- Rulings do not look at the outbox. -/
theorem ruling_outbox (c : Choices σ ν) (g : Option RateGate) (m : Method) (r : Request Payload)
    (st : Pipeline.State σ ν) (o : Option (List (Except Status Payload))) :
    c.ruling g m r { st with outbox := o } = c.ruling g m r st := by
  have hid : Gate.identified c.recovery r { st with outbox := o }
      = Gate.identified c.recovery r st := by
    simp only [Gate.identified, ensureRequestId_eq]
  simp only [ruling, presented, hid]

end Choices

namespace Call

variable {σ ν τ : Type} {c : Choices σ ν} {g : Option RateGate} {p : Pipeline σ ν}

/-- A rejected call fails with the status of the gate, and nothing happens besides what the ruling
says. -/
theorem make_rejected (hp : c.Rules g p) (k : Call σ ν) (st : Pipeline.State σ ν) {s : Status}
    (hs : (c.ruling g k.method k.request st).fate.rejection? = some s) :
    (k.make p st).1 = some s
      ∧ (k.make p st).2.user = (c.ruling g k.method k.request st).own.state
      ∧ (k.make p st).2.notes = st.notes ++ (c.ruling g k.method k.request st).own.notes := by
  cases k with
  | unary m r handler =>
    have hs' : (c.ruling g m (r.map Message.toPayload) st).fate.rejection? = some s := hs
    obtain ⟨hfst, hcore⟩ := hp.unary.rejected hs' (Pipeline.centre m (Pipeline.answering handler))
    have hmade := (p.core_callUnary m r handler st).trans hcore
    refine ⟨?_, congrArg Core.user hmade, congrArg Core.notes hmade⟩
    simp only [make, Pipeline.callUnary_eq]
    rw [hfst]
    rfl
  | stream m r handler =>
    have hs' : (c.ruling g m (r.map Message.toPayload) st).fate.rejection? = some s := hs
    obtain ⟨hfst, hcore⟩ := hp.stream.rejected hs'
      (Pipeline.centre m fun r => Pipeline.State.perform (handler r))
    have hmade := (p.core_callStream m r _ st).trans hcore
    refine ⟨?_, congrArg Core.user hmade, congrArg Core.notes hmade⟩
    simp only [make, Pipeline.callStream_eq]
    rw [hfst]
    rfl
  | serverStream m r handler =>
    have hs' : (c.ruling g m (r.map Message.toPayload) { st with outbox := none }).fate.rejection?
        = some s := by
      rw [c.ruling_outbox]
      exact hs
    obtain ⟨hfst, hcore⟩ := hp.stream.rejected hs' (Pipeline.centre m (Pipeline.producer handler))
    have hcalled := (p.core_callStream m r (Pipeline.producer handler) _).trans hcore
    rw [c.ruling_outbox] at hcalled
    -- nothing was sent, so the status is what the call itself answers
    simp only [make, Pipeline.callServerStream_of_failed hfst (congrArg Core.outbox hcalled)]
    exact ⟨rfl, congrArg Core.user hcalled, congrArg Core.notes hcalled⟩

/-- Whatever the fate of a call, it leaves the clock and the buckets as its ruling says. -/
theorem make_settles (hp : c.Rules g p) {observe : σ → τ}
    (hus : ∀ gate ∈ c.unaryStages, gate.Discreet observe)
    (hts : ∀ gate ∈ c.streamStages, gate.Discreet observe) {k : Call σ ν} (hk : k.Discreet observe)
    (st : Pipeline.State σ ν) :
    (c.ruling g k.method k.request st).Settled observe st (k.make p st).2 := by
  cases k with
  | unary m r handler =>
    have hinner : ∀ r', Keeps (Steady observe) (Pipeline.answering handler r') :=
      fun r' => Pipeline.State.perform_keeps (hk r')
    have hlane := hp.unary.settles hus (Pipeline.centre_keeps Pipeline.report_steady m hinner) m
      (r.map Message.toPayload) st
    exact hlane.steady (Pipeline.steady_of_core_eq (p.core_callUnary m r handler st))
  | stream m r handler =>
    have hinner : ∀ r', Keeps (Steady observe) (Pipeline.State.perform (handler r')) :=
      fun r' => Pipeline.State.perform_keeps (hk r')
    have hlane := hp.stream.settles hts (Pipeline.centre_keeps Pipeline.report_steady m hinner) m
      (r.map Message.toPayload) st
    exact hlane.steady (Pipeline.steady_of_core_eq (p.core_callStream m r _ st))
  | serverStream m r handler =>
    have hinner : ∀ r', Keeps (Steady observe) (Pipeline.producer handler r') := by
      intro r' st
      have h := Pipeline.State.perform_keeps (hk r') st
      exact ⟨h.clock, h.buckets, h.observed⟩
    have hlane := hp.stream.settles hts (Pipeline.centre_keeps Pipeline.report_steady m hinner) m
      (r.map Message.toPayload) { st with outbox := none }
    rw [c.ruling_outbox] at hlane
    have hcalled := hlane.steady
      (Pipeline.steady_of_core_eq (p.core_callStream m r (Pipeline.producer handler) _))
    have hanswered := hcalled.steady (Pipeline.delivered_steady m
      (p.callStream m r (Pipeline.producer handler) { st with outbox := none }).2.outbox
      (p.callStream m r (Pipeline.producer handler) { st with outbox := none }).1 _)
    exact ⟨hanswered.clock, hanswered.buckets, hanswered.observed⟩

end Call

/-! ## Runs -/

/-- The buckets of a rate gate after a run. -/
def RateGate.settle (g : RateGate) (now : Nat) (b : Buckets) : List RateGate.Event → Buckets
  | [] => b
  | .wait nanos :: es => g.settle (now + nanos) b es
  | .call m :: es => g.settle now (g.charge now m b).2 es

namespace Pipeline

variable {σ ν : Type}

/-- What happens to a pipeline: time passes, or a call is made. -/
inductive Event (σ ν : Type) : Type 1 where
  | wait (nanos : Nat)
  | call (k : Call σ ν)

/-- The state after an event. -/
def step (p : Pipeline σ ν) (st : State σ ν) : Event σ ν → State σ ν
  | .wait nanos => st.advance nanos
  | .call k => (k.make p st).2

/-- The state after some events. -/
def run (p : Pipeline σ ν) (es : List (Event σ ν)) (st : State σ ν) : State σ ν :=
  es.foldl p.step st

/-- The calls of a run, each with the state in which it is made. -/
def calls (p : Pipeline σ ν) : List (Event σ ν) → State σ ν → List (Call σ ν × State σ ν)
  | [], _ => []
  | .wait nanos :: es, st => p.calls es (p.step st (.wait nanos))
  | .call k :: es, st => (k, st) :: p.calls es (p.step st (.call k))

end Pipeline

namespace Choices

variable {σ ν τ : Type}

/-- What a run of a pipeline is to its rate gate: calls that admission turns away do not come to it. -/
def atRateGate? (c : Choices σ ν) : Pipeline.Event σ ν → Option RateGate.Event
  | .wait nanos => some (.wait nanos)
  | .call k => if c.blocks k.request then none else some (.call k.method.fullName)

/-- Whether an event is no call that admission turns away. -/
def unblocked (c : Choices σ ν) : Pipeline.Event σ ν → Bool
  | .wait _ => true
  | .call k => !c.blocks k.request

theorem filterMap_unblocked (c : Choices σ ν) (es : List (Pipeline.Event σ ν)) :
    (es.filter c.unblocked).filterMap c.atRateGate? = es.filterMap c.atRateGate? := by
  induction es with
  | nil => rfl
  | cons e es ih =>
    cases hu : c.unblocked e with
    | true => rw [List.filter_cons_of_pos hu, List.filterMap_cons, List.filterMap_cons, ih]
    | false =>
      have hnone : c.atRateGate? e = none := by
        cases e with
        | wait nanos => cases hu
        | call k => simpa [unblocked, atRateGate?] using hu
      rw [List.filter_cons_of_neg (by simp [hu]), List.filterMap_cons_none hnone, ih]

theorem ruling_buckets (c : Choices σ ν) (g : Option RateGate) (m : Method) (r : Request Payload)
    (st : Pipeline.State σ ν) :
    (c.ruling g m r st).buckets
      = if c.blocks r then st.buckets else (Gate.drawn g st.clock st.buckets m).2 := by
  cases hb : c.blocks r with
  | true => rw [ruling_of_blocks hb]; rfl
  | false =>
    cases ha : (Gate.drawn g st.clock st.buckets m).1.allowed with
    | true => rw [ruling_of_allowed hb ha]; rfl
    | false => rw [ruling_of_not_allowed hb ha]; rfl

/-- The stages that options add are spans and stages of the user's. -/
theorem stages_discreet (os : List (PipelineOption σ ν)) :
    (∀ gate ∈ (of os).unaryStages, gate.Discreet fun _ => ())
      ∧ ∀ gate ∈ (of os).streamStages, gate.Discreet fun _ => () := by
  have hstage : ∀ s ∈ (of os).stages,
      (∀ gate, s.onUnary? = some gate → gate.Discreet fun _ => ())
        ∧ ∀ gate, s.onStream? = some gate → gate.Discreet fun _ => () := by
    intro s hs
    obtain ⟨o, -, ho⟩ := List.mem_filterMap.mp hs
    have huser : ∀ {ρ : Type} (stage : UserStage σ ν ρ), stage.Discreet fun _ => () :=
      fun stage => ⟨fun _ _ _ => rfl, fun _ _ _ => rfl⟩
    cases o with
    | span =>
      obtain rfl := Option.some.inj ho
      constructor
      · intro gate h
        obtain rfl := Option.some.inj h
        trivial
      · intro gate h
        obtain rfl := Option.some.inj h
        trivial
    | user stage =>
      obtain rfl := Option.some.inj ho
      constructor
      · intro gate h
        cases stage with
        | unary v | both v t =>
          obtain rfl := Option.some.inj h
          exact huser v
        | streaming t => cases h
      · intro gate h
        cases stage with
        | unary v => cases h
        | streaming t | both v t =>
          obtain rfl := Option.some.inj h
          exact huser t
    | recovery | requestId | admission | rateLimit | resolver | authentication | metrics | cache =>
      cases ho
  constructor
  · intro gate hg
    obtain ⟨s, hs, h⟩ := List.mem_filterMap.mp hg
    exact (hstage s hs).1 gate h
  · intro gate hg
    obtain ⟨s, hs, h⟩ := List.mem_filterMap.mp hg
    exact (hstage s hs).2 gate h

/-! ## Buckets and consultations in a run -/

variable {c : Choices σ ν} {g : Option RateGate} {p : Pipeline σ ν}

/-- In a run the buckets are drawn from by the calls that admission lets through, and by nothing
else. -/
theorem run_buckets (hp : c.Rules g p)
    (hus : ∀ gate ∈ c.unaryStages, gate.Discreet fun _ => ())
    (hts : ∀ gate ∈ c.streamStages, gate.Discreet fun _ => ()) (es : List (Pipeline.Event σ ν))
    (st : Pipeline.State σ ν) (b : RateGate → Buckets) (hb : st.buckets = g.map b) :
    (p.run es st).buckets
      = g.map fun gate => gate.settle st.clock (b gate) (es.filterMap c.atRateGate?) := by
  induction es generalizing st b with
  | nil => exact hb
  | cons e es ih =>
    cases e with
    | wait nanos => exact ih (st.advance nanos) b hb
    | call k =>
      have hsettled := k.make_settles hp hus hts k.discreet_unit st
      have hbuckets := hsettled.buckets
      rw [ruling_buckets] at hbuckets
      show (p.run es (k.make p st).2).buckets = _
      cases hblocks : c.blocks k.request with
      | true =>
        rw [hblocks] at hbuckets
        have hnone : c.atRateGate? (.call k) = none := by simp [atRateGate?, hblocks]
        rw [List.filterMap_cons_none hnone, ih _ b (hbuckets.trans hb), hsettled.clock]
      | false =>
        rw [hblocks, if_neg Bool.false_ne_true, hb] at hbuckets
        have hsome : c.atRateGate? (.call k) = some (.call k.method.fullName) := by
          simp [atRateGate?, hblocks]
        have hcharged : (k.make p st).2.buckets
            = g.map fun gate => (gate.charge st.clock k.method.fullName (b gate)).2 := by
          rw [hbuckets]
          cases g <;> rfl
        rw [List.filterMap_cons_some hsome, ih _ _ hcharged, hsettled.clock]
        rfl

/-- The authenticator acts once on the user's state where the request came as far, and not otherwise. -/
theorem ruling_tally {a : Authenticator σ ν} (ha : c.authenticator = some a) {tally : σ → Nat}
    (htally : ∀ name metadata context own,
      tally (a name metadata context own).2.state = tally own.state + 1)
    (m : Method) (r : Request Payload) (st : Pipeline.State σ ν) :
    tally (c.ruling g m r st).own.state
      = tally st.user + if (c.ruling g m r st).fate.consulted then 1 else 0 := by
  cases hb : c.blocks r with
  | true => rw [ruling_of_blocks hb]; rfl
  | false =>
    cases hd : (Gate.drawn g st.clock st.buckets m).1.allowed with
    | false => rw [ruling_of_not_allowed hb hd]; rfl
    | true =>
      rw [ruling_of_allowed hb hd]
      simp only [Gate.asked, ha, htally, Fate.consulted_ofCredential, if_true]

/-- A request comes as far as the authenticator exactly if admission and the rate gate let it
through. -/
theorem consulted_iff {m : Method} {r : Request Payload} {st : Pipeline.State σ ν} :
    (c.ruling g m r st).fate.consulted = true
      ↔ c.blocks r = false ∧ (Gate.drawn g st.clock st.buckets m).1.allowed = true := by
  cases hb : c.blocks r with
  | true => simp [ruling_of_blocks hb, Fate.consulted]
  | false =>
    cases ha : (Gate.drawn g st.clock st.buckets m).1.allowed with
    | false => simp [ruling_of_not_allowed hb ha, Fate.consulted]
    | true => simp [ruling_of_allowed hb ha, Gate.consulted_asked]

/-- The authenticator is consulted once for each call of a run that came as far. -/
theorem run_tally (hp : c.Rules g p) {a : Authenticator σ ν}
    (ha : c.authenticator = some a) {tally : σ → Nat}
    (htally : ∀ name metadata context own,
      tally (a name metadata context own).2.state = tally own.state + 1)
    (hus : ∀ gate ∈ c.unaryStages, gate.Discreet tally)
    (hts : ∀ gate ∈ c.streamStages, gate.Discreet tally) (es : List (Pipeline.Event σ ν))
    (hes : ∀ k, .call k ∈ es → k.Discreet tally) (st : Pipeline.State σ ν) :
    tally (p.run es st).user = tally st.user + (p.calls es st).countP fun x =>
      (c.ruling g x.1.method x.1.request x.2).fate.consulted := by
  induction es generalizing st with
  | nil => rfl
  | cons e es ih =>
    have hrest : ∀ k, .call k ∈ es → k.Discreet tally :=
      fun k hk => hes k (List.mem_cons_of_mem e hk)
    cases e with
    | wait nanos => exact ih hrest (st.advance nanos)
    | call k =>
      have hsettled := k.make_settles hp hus hts (hes k List.mem_cons_self) st
      have hk := hsettled.observed.trans (ruling_tally ha htally k.method k.request st)
      show tally (p.run es (k.make p st).2).user
        = tally st.user + List.countP _ ((k, st) :: p.calls es (k.make p st).2)
      rw [ih hrest, hk, List.countP_cons]
      dsimp only
      omega

end Choices

/-! ## The main statement -/

section

variable {σ ν : Type}

/-- **Which gate decides, in every run.** For a pipeline that was built from options, with the choices
`c` that they make, and for every run of it from its start:
* both lanes go by the rulings of `c`, around the stages that the options add, and for a rejected call
  nothing inside the gate that decides is run;
* a call that a gate rejects fails with the status of that gate, and besides what the ruling says
  neither the user's state nor the notes change; every call leaves the buckets as its ruling says; a call
  comes as far as the authenticator exactly if admission and the rate gate let it through, and then it
  has drawn a token, also if it is refused;
* the authenticator is consulted once for each call that came as far, and not otherwise;
* the buckets are those of a rate gate that sees just the calls which admission lets through;
* the run without the calls that admission turns away leaves the same buckets. -/
theorem gates_decide_runs (os : List (PipelineOption σ ν)) {p : Pipeline σ ν}
    (hp : (({} : Builder σ ν).applyAll os).build = .ok p) (u : σ) (minted : Mint)
    (es : List (Pipeline.Event σ ν)) :
    let c := Choices.of os
    c.Rules p.rateGate p
    ∧ (∀ x ∈ p.calls es (p.start u minted),
        let ruling := c.ruling p.rateGate x.1.method x.1.request x.2
        let made := x.1.make p x.2
        let draw := Gate.drawn p.rateGate x.2.clock x.2.buckets x.1.method
        (∀ s, ruling.fate.rejection? = some s → made.1 = some s
            ∧ made.2.user = ruling.own.state ∧ made.2.notes = x.2.notes ++ ruling.own.notes)
          ∧ made.2.buckets = ruling.buckets
          ∧ (ruling.fate.consulted = true
              ↔ c.blocks x.1.request = false ∧ draw.1.allowed = true)
          ∧ (ruling.fate.consulted = true → made.2.buckets = draw.2))
    ∧ (∀ a, c.authenticator = some a → ∀ tally : σ → Nat,
        (∀ name metadata context own,
          tally (a name metadata context own).2.state = tally own.state + 1) →
        (∀ gate ∈ c.unaryStages, gate.Discreet tally) →
        (∀ gate ∈ c.streamStages, gate.Discreet tally) →
        (∀ k, .call k ∈ es → k.Discreet tally) →
        tally (p.run es (p.start u minted)).user
          = tally u + (p.calls es (p.start u minted)).countP fun x =>
            (c.ruling p.rateGate x.1.method x.1.request x.2).fate.consulted)
    ∧ (p.run es (p.start u minted)).buckets
        = p.rateGate.map (fun g => g.settle 0 (g.fresh 0) (es.filterMap c.atRateGate?))
    ∧ (p.run (es.filter c.unblocked) (p.start u minted)).buckets
        = (p.run es (p.start u minted)).buckets := by
  intro c
  obtain ⟨g, hg, hpipe⟩ : ∃ g, c.limits = .ok g ∧ c.pipeline g = p := by
    rw [Choices.applyAll_eq, Choices.build_builder] at hp
    split at hp
    · cases hp
    · exact ⟨_, ‹_›, Except.ok.inj hp⟩
  subst hpipe
  have hrules : c.Rules g (c.pipeline g) := ⟨c.gates_govern g _, c.gates_govern g _⟩
  obtain ⟨hus, hts⟩ := Choices.stages_discreet os
  have hbuckets := Choices.run_buckets hrules hus hts
  refine ⟨hrules, ?_, ?_, ?_, ?_⟩
  · intro x _
    have hleft := (x.1.make_settles hrules hus hts x.1.discreet_unit x.2).buckets
    refine ⟨fun s hs => x.1.make_rejected hrules x.2 hs, hleft, Choices.consulted_iff, ?_⟩
    intro hc
    rw [hleft, c.ruling_buckets, (Choices.consulted_iff.mp hc).1]
    rfl
  · intro a ha tally htally hu ht hes
    exact Choices.run_tally hrules ha htally hu ht es hes _
  · exact hbuckets es _ (fun g => g.fresh 0) rfl
  · rw [hbuckets es _ (fun g => g.fresh 0) rfl, hbuckets _ _ (fun g => g.fresh 0) rfl,
      c.filterMap_unblocked]

/-- A caller without an address is blocked. One with an address is refused by the authenticator, which
takes the only token, and gets no token at the next call; a second later there is one again. -/
theorem gates_decide_runs_three_gates :
    let gate : Authenticator Nat Unit := fun _ _ _ own =>
      (.failed "no credentials", { own with state := own.state + 1 })
    let os : List (PipelineOption Nat Unit) :=
      [.authentication gate, .rateLimit 1.0 1, .recovery, .admission ⟨.denyList, [], .of [] []⟩]
    let call (peer : Option Endpoint) : Pipeline.Event Nat Unit :=
      .call (.stream (.stream "/S/A") { peer, message := "hello" } fun _ => pure (.ok ()))
    let caller : Endpoint := { address := .v4 1, port := 80 }
    let es := [call none, call (some caller), call (some caller), .wait 1000000000, call (some caller)]
    ∃ p, (({} : Builder Nat Unit).applyAll os).build = .ok p
      ∧ ((p.calls es (p.start 0)).map fun x => (x.1.make p x.2).1)
        = [some ⟨.permissionDenied, "blocked"⟩, some ⟨.unauthenticated, "unauthenticated"⟩,
          some ⟨.resourceExhausted, "rate limit exceeded"⟩,
          some ⟨.unauthenticated, "unauthenticated"⟩]
      ∧ (p.run es (p.start 0)).user = (p.calls es (p.start 0)).countP (fun x =>
          ((Choices.of os).ruling p.rateGate x.1.method x.1.request x.2).fate.consulted)
      ∧ (p.run (es.filter (Choices.of os).unblocked) (p.start 0)).buckets
        = (p.run es (p.start 0)).buckets := by
  intro gate os call caller es
  have hanswers : ((Choices.of os).limits.toOption.map fun g =>
      let p := (Choices.of os).pipeline g
      (p.calls es (p.start 0)).map fun x => (x.1.make p x.2).1)
      = some [some ⟨.permissionDenied, "blocked"⟩, some ⟨.unauthenticated, "unauthenticated"⟩,
          some ⟨.resourceExhausted, "rate limit exceeded"⟩,
          some ⟨.unauthenticated, "unauthenticated"⟩] := by
    decide +kernel
  cases hg : (Choices.of os).limits with
  | error e => rw [hg] at hanswers; cases hanswers
  | ok g =>
    rw [hg] at hanswers
    have hp : (({} : Builder Nat Unit).applyAll os).build = .ok ((Choices.of os).pipeline g) := by
      rw [Choices.applyAll_eq, Choices.build_builder, hg]
    obtain ⟨-, -, htally, -, hblocked⟩ := gates_decide_runs os hp 0 {} es
    have hcount := htally gate rfl id (fun _ _ _ _ => rfl) (fun g hg => by cases hg)
      (fun g hg => by cases hg) ?_
    · exact ⟨_, hp, Option.some.inj hanswers, by simpa using hcount, hblocked⟩
    · intro k hk
      have hcall : ∀ peer, .call k = call peer → k.Discreet (id : Nat → Nat) := by
        intro peer h
        cases h
        exact fun _ _ => rfl
      simp only [es, List.mem_cons, List.not_mem_nil, or_false] at hk
      rcases hk with h | h | h | h | h
      · exact hcall _ h
      · exact hcall _ h
      · exact hcall _ h
      · cases h
      · exact hcall _ h

end

end Turnstile
