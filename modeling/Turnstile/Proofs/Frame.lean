import Turnstile.Call
import Turnstile.Proofs.Layer

/-!
# What a lane leaves alone

Stages inside the gates, and the user's handlers, act on the user's state and on the journal; they
cannot let time pass or draw from a bucket. No layer of a lane touches the outbox.

* `Pipeline.State.Steady`: same clock, same buckets, and the same to an observer of the user's state.
* `Gate.Discreet`: spans, and stages of the user's that the observer does not notice.
* `Gate.run_steady`: a lane of such stages around a handler.
* `Gate.layer_keeps`: what every gate keeps, and `layer_outbox`, `layer_ledgers`, cases of it.
-/

namespace Turnstile

/-! ## Calls and their lanes -/

namespace Pipeline

variable {σ ν : Type}

/-- A handler as the unary lane runs it. -/
def answering {α β : Type} [Message β]
    (handler : Request α → StateM (Own σ ν) (Outcome (Reply β))) :
    Request α → StateM (State σ ν) (Outcome (Reply Payload)) := fun r st =>
  let (o, st) := State.perform (handler r) st
  (o.map fun reply => reply.map Message.toPayload, st)

/-- A unary call is its lane, and around it the typed reply and the accounts. -/
theorem callUnary_eq {α β : Type} [Message α] [Message β] (p : Pipeline σ ν) (m : Method)
    (r : Request α) (handler : Request α → StateM (Own σ ν) (Outcome (Reply β))) (st : State σ ν) :
    p.callUnary m r handler st
      = let lane := Gate.run p.unary m (centre m (answering handler)) (r.map Message.toPayload) st
        let restored := restoreReply m lane.1 lane.2
        (restored.1, p.recordTime m (p.recordOutcome m restored.1 restored.2)) := rfl

/-- A call of a stream is its lane, and around it the accounts. -/
theorem callStream_eq {α : Type} [Message α] (p : Pipeline σ ν) (m : Method) (r : Request α)
    (handler : Request α → StateM (State σ ν) (Outcome Unit)) (st : State σ ν) :
    p.callStream m r handler st
      = let lane := Gate.run p.stream m (centre m handler) (r.map Message.toPayload) st
        (lane.1, p.recordTime m (p.recordOutcome m lane.1 lane.2)) := rfl

/-- A call whose handler sends to the caller is a call of a stream that starts with no outbox. -/
theorem callServerStream_eq {α : Type} [Message α] (p : Pipeline σ ν) (m : Method) (r : Request α)
    (handler : Request α → StateM (Own σ ν) Production) (st : State σ ν) :
    p.callServerStream m r handler st
      = let called := p.callStream m r (producer handler) { st with outbox := none }
        let answer := delivered m called.2.outbox called.1 called.2
        (answer.1, { answer.2 with outbox := none }) := rfl

section

variable {P : State σ ν → State σ ν → Prop}
  (hrefl : ∀ st, P st st) (hreport : ∀ e, ∀ st : State σ ν, P st (st.report e))

include hreport in
/-- What reports and the handler keep, the handler keeps at the centre of a lane. -/
theorem centre_keeps {α ρ : Type} [Message α] (m : Method)
    {handler : Request α → StateM (State σ ν) (Outcome ρ)} (hh : ∀ r, Keeps P (handler r))
    (r : Request Payload) : Keeps P (centre m handler r) := by
  intro st
  unfold centre
  cases (Message.ofPayload? r.message : Option α) with
  | some a => exact hh _ st
  | none => exact hreport _ st

include hrefl hreport in
/-- What reports keep, the outer end of the unary lane keeps. -/
theorem restoreReply_keeps {β : Type} [Message β] (m : Method) (o : Outcome (Reply Payload)) :
    Keeps P (@restoreReply σ ν β _ m o) := by
  intro st
  unfold restoreReply
  cases o with
  | panicked payload => exact hrefl st
  | returned result =>
    cases result with
    | error s => exact hrefl st
    | ok reply =>
      dsimp only
      cases (Message.ofPayload? reply.message : Option β) with
      | some b => exact hrefl st
      | none => exact hreport _ st

include hrefl hreport in
/-- What reports keep, the delivery of a stream keeps. -/
theorem delivered_keeps (m : Method) (sent : Option (List (Except Status Payload)))
    (o : Outcome Unit) (st : State σ ν) : P st (delivered m sent o st).2 := by
  unfold delivered
  split
  · exact hrefl st
  · exact hrefl st
  · exact hrefl st
  · exact hrefl st
  · exact hrefl st
  · exact hreport _ st

end

end Pipeline

/-! ## Steady states -/

namespace Pipeline.State

variable {σ ν τ α : Type}

/-- No time passes, no bucket is drawn from, and an observer of the user's state notices nothing. -/
structure Steady (observe : σ → τ) (st st' : State σ ν) : Prop where
  clock : st'.clock = st.clock
  buckets : st'.buckets = st.buckets
  observed : observe st'.user = observe st.user

/-- An act of the user's that an observer does not notice. -/
def Unnoticed (observe : σ → τ) (act : StateM (Own σ ν) α) : Prop :=
  Keeps (fun own own' => observe own'.state = observe own.state) act

variable {observe : σ → τ}

theorem Steady.refl (st : State σ ν) : Steady observe st st := ⟨rfl, rfl, rfl⟩

theorem Steady.trans (a b c : State σ ν) (h : Steady observe a b) (h' : Steady observe b c) :
    Steady observe a c :=
  ⟨h'.clock.trans h.clock, h'.buckets.trans h.buckets, h'.observed.trans h.observed⟩

/-- What the user's code yields in a pipeline, it yields on its own state. -/
theorem exists_of_perform {act : StateM (Own σ ν) α} {st st' : State σ ν} {a : α}
    (h : perform act st = (a, st')) : ∃ own, act { state := st.user } = (a, own) := by
  obtain ⟨rfl, -⟩ := Prod.mk.inj h
  exact ⟨_, rfl⟩

theorem perform_keeps {act : StateM (Own σ ν) α} (h : Unnoticed observe act) :
    Keeps (Steady observe) (perform act) :=
  fun st => ⟨rfl, rfl, h { state := st.user }⟩

end Pipeline.State

open Pipeline.State (Steady Unnoticed)

/-! ## Stages inside the gates -/

/-- A stage of the user's that an observer notices neither on the way in nor on the way out. -/
structure UserStage.Discreet {σ ν ρ τ : Type} (observe : σ → τ) (stage : UserStage σ ν ρ) :
    Prop where
  enter : ∀ m r, Unnoticed observe (stage.enter m r)
  leave : ∀ {m r own r' leave own'}, stage.enter m r own = (.passed r' leave, own') →
    ∀ outcome, Unnoticed observe (leave outcome)

namespace Gate

variable {σ ν ρ τ : Type} {observe : σ → τ}

/-- A span, or a stage of the user's that an observer does not notice. -/
def Discreet (observe : σ → τ) : Gate σ ν ρ → Prop
  | .span => True
  | .user stage => stage.Discreet observe
  | _ => False

/-- A stage of the user's keeps what its acts keep. -/
theorem userLayer_steadfast {stage : UserStage σ ν ρ} {m : Method}
    {P : Pipeline.State σ ν → Pipeline.State σ ν → Prop}
    (henter : ∀ r, Keeps P (Pipeline.State.perform (stage.enter m r)))
    (hleave : ∀ {r own r' leave own'}, stage.enter m r own = (.passed r' leave, own') →
      ∀ outcome, Keeps P (Pipeline.State.perform (leave outcome))) :
    (userLayer stage m).Steadfast P := by
  constructor
  · intro r st
    have hp := henter r st
    simp only [userLayer]
    split <;> rename_i heq <;> rw [heq] at hp <;> exact hp
  · intro r st r' leave st' he outcome
    cases hs : stage.enter m r { state := st.user } with
    | mk entered own =>
      cases entered with
      | answered outcome =>
        simp only [userLayer, Pipeline.State.perform, hs] at he
        cases he
      | passed inner back =>
        simp only [userLayer, Pipeline.State.perform, hs] at he
        cases he
        exact hleave hs outcome

/-- A layer that does nothing on the way out. -/
def Plain (l : LaneLayer σ ν ρ) : Prop :=
  ∀ r st, (∃ outcome, (l.enter r st).1 = .answered outcome) ∨ ∃ r', (l.enter r st).1 = pass r'

theorem Plain.steadfast {l : LaneLayer σ ν ρ} (h : Plain l)
    {P : Pipeline.State σ ν → Pipeline.State σ ν → Prop} (hrefl : ∀ st, P st st)
    (henter : ∀ r, Keeps P (l.enter r)) : l.Steadfast P := by
  refine ⟨henter, ?_⟩
  intro r st r' leave st' he result st''
  rcases h r st with ⟨outcome, ha⟩ | ⟨inner, hp⟩
  · rw [he] at ha
    cases ha
  · rw [he] at hp
    cases hp
    exact hrefl st''

theorem spanLayer_plain (m : Method) : Plain (spanLayer m : LaneLayer σ ν ρ) :=
  fun r _ => .inr ⟨r, rfl⟩

theorem layer_steadfast {gate : Gate σ ν ρ} (h : gate.Discreet observe) (m : Method) :
    (gate.layer m).Steadfast (Steady observe) := by
  cases gate with
  | span => exact (spanLayer_plain m).steadfast Steady.refl fun r st => ⟨rfl, rfl, rfl⟩
  | user stage =>
    exact userLayer_steadfast (fun r => Pipeline.State.perform_keeps (h.enter m r))
      fun he outcome => Pipeline.State.perform_keeps (h.leave he outcome)
  | recovery | admission | rateLimit | authentication | tagging => exact h.elim

/-- **A lane of discreet stages** around a steady handler is steady. -/
theorem run_steady {lane : List (Gate σ ν ρ)} (hl : ∀ gate ∈ lane, gate.Discreet observe)
    (m : Method) {handler : Request Payload → StateM (Pipeline.State σ ν) (Outcome ρ)}
    (hh : ∀ r, Keeps (Steady observe) (handler r)) (r : Request Payload) :
    Keeps (Steady observe) (run lane m handler r) := by
  refine Layer.chain_keeps Steady.refl Steady.trans ?_ hh r
  intro l hmem
  obtain ⟨gate, hg, rfl⟩ := List.mem_map.mp hmem
  exact layer_steadfast (hl gate hg) m

/-! ## What every gate keeps -/

theorem admissionLayer_plain (a : Admission) (m : Method) :
    Plain (admissionLayer a m : LaneLayer σ ν ρ) := by
  intro r st
  simp only [admissionLayer]
  cases a.evaluateRequest r with
  | true => exact .inr ⟨r, rfl⟩
  | false => exact .inl ⟨_, rfl⟩

theorem rateLimitLayer_plain (g : RateGate) (m : Method) :
    Plain (rateLimitLayer g m : LaneLayer σ ν ρ) := by
  intro r st
  simp only [rateLimitLayer]
  cases g.charge st.clock m.fullName (st.buckets.getD (g.fresh st.clock)) with
  | mk verdict buckets =>
    dsimp only
    cases verdict.allowed with
    | true => cases verdict.group <;> exact .inr ⟨_, rfl⟩
    | false => exact .inl ⟨_, rfl⟩

theorem authenticationLayer_plain (a : Authenticator σ ν) (m : Method) :
    Plain (authenticationLayer a m : LaneLayer σ ν ρ) := by
  intro r st
  simp only [authenticationLayer]
  cases Pipeline.State.perform (a m.fullName r.metadata r.context) st with
  | mk credential st' =>
    cases credential with
    | accepted context => exact .inr ⟨_, rfl⟩
    | refused s | failed error | panicked payload => exact .inl ⟨_, rfl⟩

/-- Whether a gate is recovery. -/
def isRecovery : Gate σ ν ρ → Bool
  | .recovery _ => true
  | _ => false

/-- A relation between states that goes on through all that gates do: reports, acts of the user's, minted
identifiers, and what is drawn from the buckets. -/
structure Kept (P : Pipeline.State σ ν → Pipeline.State σ ν → Prop) : Prop where
  refl : ∀ st, P st st
  trans : ∀ a b c, P a b → P b c → P a c
  report : ∀ e, ∀ st : Pipeline.State σ ν, P st (st.report e)
  perform : ∀ {α : Type} (act : StateM (Own σ ν) α), Keeps P (Pipeline.State.perform act)
  mint : ∀ minted, ∀ st : Pipeline.State σ ν, P st { st with minted }
  draw : ∀ buckets, ∀ st : Pipeline.State σ ν, P st { st with buckets }

section

variable {P : Pipeline.State σ ν → Pipeline.State σ ν → Prop}

theorem Kept.identify (hP : Kept P) (r : Request Payload) : Keeps P (ensureRequestId r) := by
  intro st
  rw [ensureRequestId_eq]
  exact hP.mint _ st

/-- Recovery keeps what is kept when a panic is counted. -/
theorem Kept.recovery (hP : Kept P)
    (hcount : ∀ ledgers, ∀ st : Pipeline.State σ ν, P st { st with ledgers })
    (metrics : Option Collector) (m : Method) :
    (recoveryLayer metrics m : LaneLayer σ ν ρ).Steadfast P := by
  constructor
  · intro r st
    exact hP.identify r st
  · intro r st r' leave st' he result st''
    simp only [recoveryLayer] at he
    cases hid : ensureRequestId r st with
    | mk tagged st₁ =>
      rw [hid] at he
      cases he
      cases result with
      | returned result => exact hP.refl st''
      | panicked payload =>
        have hreport := hP.report (.panicRecovered m.fullName tagged.1 payload) st''
        dsimp only
        rw [Pipeline.State.count_eq]
        exact hP.trans _ _ _ hreport (hcount _ _)

theorem Kept.rateLimit (hP : Kept P) (g : RateGate) (m : Method) :
    (rateLimitLayer g m : LaneLayer σ ν ρ).Steadfast P := by
  refine (rateLimitLayer_plain g m).steadfast hP.refl ?_
  intro r st
  simp only [rateLimitLayer]
  cases g.charge st.clock m.fullName (st.buckets.getD (g.fresh st.clock)) with
  | mk verdict buckets =>
    obtain ⟨allowed, group, opened⟩ := verdict
    have hdraw := hP.draw (some buckets) st
    -- a bucket that is opened is reported, and so is a rejection
    cases opened with
    | none =>
      cases allowed with
      | true => cases group <;> exact hdraw
      | false => exact hP.trans _ _ _ hdraw (hP.report _ _)
    | some opened =>
      have hopened := hP.trans _ _ _ hdraw (hP.report (.bucketOpened opened.1 opened.2) _)
      cases allowed with
      | true => cases group <;> exact hopened
      | false => exact hP.trans _ _ _ hopened (hP.report _ _)

theorem Kept.authentication (hP : Kept P) (a : Authenticator σ ν) (m : Method) :
    (authenticationLayer a m : LaneLayer σ ν ρ).Steadfast P := by
  refine (authenticationLayer_plain a m).steadfast hP.refl ?_
  intro r st
  have hasked := hP.perform (a m.fullName r.metadata r.context) st
  simp only [authenticationLayer]
  cases he : Pipeline.State.perform (a m.fullName r.metadata r.context) st with
  | mk credential st' =>
    rw [he] at hasked
    cases credential with
    | failed error => exact hP.trans _ _ _ hasked (hP.report _ _)
    | accepted context | refused s | panicked payload => exact hasked

/-- **What every gate keeps.** Only recovery counts panics. -/
theorem layer_keeps (hP : Kept P) {gate : Gate σ ν ρ}
    (hcount : gate.isRecovery = true →
      ∀ ledgers, ∀ st : Pipeline.State σ ν, P st { st with ledgers })
    (m : Method) : (gate.layer m).Steadfast P := by
  cases gate with
  | recovery metrics => exact hP.recovery (hcount rfl) metrics m
  | admission a =>
    refine (admissionLayer_plain a m).steadfast hP.refl ?_
    intro r st
    simp only [admissionLayer]
    cases a.evaluateRequest r with
    | true => exact hP.refl st
    | false => exact hP.report _ st
  | rateLimit g => exact hP.rateLimit g m
  | authentication a => exact hP.authentication a m
  | tagging => exact Plain.steadfast (fun r st => .inr ⟨_, rfl⟩) hP.refl hP.identify
  | span => exact (spanLayer_plain m).steadfast hP.refl fun r st => hP.report _ st
  | user stage =>
    exact userLayer_steadfast (fun r => hP.perform (stage.enter m r)) fun _ outcome => hP.perform _

end

/-! ## The outbox and the ledgers -/

/-- The outbox is the same. -/
def SameOutbox (st st' : Pipeline.State σ ν) : Prop := st'.outbox = st.outbox

theorem SameOutbox.kept : Kept (SameOutbox : Pipeline.State σ ν → Pipeline.State σ ν → Prop) :=
  ⟨fun _ => rfl, fun _ _ _ h h' => Eq.trans h' h, fun _ _ => rfl, fun _ _ => rfl, fun _ _ => rfl,
    fun _ _ => rfl⟩

/-- **No layer of a lane touches the outbox.** -/
theorem layer_outbox (gate : Gate σ ν ρ) (m : Method) : (gate.layer m).Steadfast SameOutbox :=
  layer_keeps SameOutbox.kept (fun _ _ _ => rfl) m

/-- The ledgers are the same. -/
def SameLedgers (st st' : Pipeline.State σ ν) : Prop := st'.ledgers = st.ledgers

theorem SameLedgers.kept : Kept (SameLedgers : Pipeline.State σ ν → Pipeline.State σ ν → Prop) :=
  ⟨fun _ => rfl, fun _ _ _ h h' => Eq.trans h' h, fun _ _ => rfl, fun _ _ => rfl, fun _ _ => rfl,
    fun _ _ => rfl⟩

/-- **No gate but recovery touches the ledgers.** -/
theorem layer_ledgers {gate : Gate σ ν ρ} (hg : gate.isRecovery = false) (m : Method) :
    (gate.layer m).Steadfast SameLedgers :=
  layer_keeps SameLedgers.kept (fun h => by rw [hg] at h; cases h) m

end Gate

end Turnstile
