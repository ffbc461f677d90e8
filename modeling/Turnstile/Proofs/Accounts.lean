import Turnstile.Proofs.Ledger
import Turnstile.Proofs.Traffic

/-!
# Every call is accounted for

Three things are counted in three places: the code with which a call ends, around its lane; that it was
timed, around that; and a panic, in recovery. With recovery and metrics the three agree over every run:
each call is entered once, as its chain has ended. A call that is dropped while it waits was timed, and no
more is entered of it.

* `Record`, `Ledger.enter`: what is to be known of a call, and a call that is entered.
* `Ledger.Holds`: some calls are what a ledger holds; `Holds.shown_requests` and the lemmas after it, what
  it shows then.
* `Pipeline.Books`: some calls are what the collector of a pipeline holds, and others hold none.
* `Call.record`, `Call.ledgers_make`: the record of a call, which is what the call enters.
* `Drop.record`, `Drop.ledgers_leave`: the same for a call that is dropped.
* `Stream.record`, `Stream.ledgers_acted`: the same for a stream, which enters it where its lane ends.
* `calls_accounted`: the main statement, over calls and streams that go on side by side.
-/

namespace Turnstile

open Exchange (lane account)

/-! ## Records -/

namespace Outcome

variable {ρ : Type}

/-- The code that an outcome is counted under. A panic has none. -/
def code? : Outcome ρ → Option Code
  | .returned result => some (resultCode result)
  | .panicked _ => none

/-- Whether an outcome is a panic. -/
def isPanicked : Outcome ρ → Bool
  | .returned _ => false
  | .panicked _ => true

theorem isPanicked_iff {o : Outcome ρ} : o.isPanicked = true ↔ ∃ payload, o = .panicked payload := by
  cases o with
  | returned result => simp [isPanicked]
  | panicked payload => simp [isPanicked]

theorem code?_map {α : Type} (f : ρ → α) (o : Outcome ρ) : (o.map f).code? = o.code? := by
  cases o with
  | panicked payload => rfl
  | returned result => cases result <;> rfl

theorem isPanicked_map {α : Type} (f : ρ → α) (o : Outcome ρ) :
    (o.map f).isPanicked = o.isPanicked := by
  cases o <;> rfl

end Outcome

/-- What is to be known of a call: its method, the code with which its chain has ended, if it has, and
whether a panic got out to recovery. -/
structure Record where
  method : String
  code : Option Code
  panicked : Bool

/-- The entry of a call among those that ended. -/
def Record.entry? (e : Record) : Option (String × Code) := e.code.map fun code => (e.method, code)

namespace Ledger

/-- The ledger after a call. -/
def enter (l : Ledger) (e : Record) : Ledger :=
  let l := if e.panicked then l.recover else l
  let l := match e.code with
    | some code => l.finish e.method code
    | none => l
  l.time e.method

/-- Some calls, in whatever order, are what a ledger holds. -/
structure Holds (l : Ledger) (es : List Record) : Prop where
  finished : l.finished.Perm (es.filterMap Record.entry?)
  timed : l.timed.Perm (es.map Record.method)
  recovered : l.recovered = es.countP Record.panicked

theorem holds_nil : ({} : Ledger).Holds [] := ⟨.nil, .nil, rfl⟩

theorem Holds.enter {l : Ledger} {es es' : List Record} (h : l.Holds es) {e : Record}
    (he : es'.Perm (e :: es)) : (l.enter e).Holds es' := by
  obtain ⟨method, code, panicked⟩ := e
  refine ⟨?_, ?_, ?_⟩
  · refine List.Perm.trans ?_ (he.filterMap Record.entry?).symm
    cases code with
    | none => cases panicked <;> exact h.finished
    | some code =>
      have hperm : (l.finished ++ [(method, code)]).Perm
          ((method, code) :: es.filterMap Record.entry?) :=
        (List.perm_append_singleton ..).trans (h.finished.cons _)
      cases panicked <;> exact hperm
  · refine List.Perm.trans ?_ (he.map Record.method).symm
    have hperm : (l.timed ++ [method]).Perm (method :: es.map Record.method) :=
      (List.perm_append_singleton ..).trans (h.timed.cons _)
    cases code <;> cases panicked <;> exact hperm
  · rw [he.countP_eq, List.countP_cons, ← h.recovered]
    cases code <;> cases panicked <;> rfl

/-- The calls of a method are those that have ended with a code and those that have none. -/
theorem count_entries (es : List Record) (method : String) :
    ((es.filterMap Record.entry?).map Prod.fst).count method
        + es.countP (fun e => e.method = method ∧ e.code = none)
      = es.countP fun e => e.method = method := by
  induction es with
  | nil => rfl
  | cons e es ih =>
    obtain ⟨name, code, panicked⟩ := e
    rw [List.countP_cons, List.countP_cons, ← ih]
    cases code with
    | none =>
      have hnone : Record.entry? ⟨name, none, panicked⟩ = none := rfl
      simp [List.filterMap_cons_none hnone, Nat.add_assoc]
    | some code =>
      have hsome : Record.entry? ⟨name, some code, panicked⟩ = some (name, code) := rfl
      simp [List.filterMap_cons_some hsome, List.count_cons, Nat.add_right_comm]

section

variable {l : Ledger} {es : List Record} (h : l.Holds es)

include h

/-- A ledger shows how many of the calls of a method have ended with a code. -/
theorem Holds.shown_requests (method : String) (code : Code) :
    l.shown "gatehouse_requests_total" [("code", code.label), ("method", method)]
      = es.countP fun e => e.method = method ∧ e.code = some code := by
  rw [Ledger.shown_requests, finishedCount, h.finished.count_eq, List.count_eq_countP,
    List.countP_filterMap]
  refine List.countP_congr ?_
  rintro ⟨m, c, panicked⟩ -
  cases c <;> simp [Record.entry?]

/-- A ledger shows how many calls a method has had. -/
theorem Holds.shown_durations (method : String) :
    l.shown "gatehouse_request_duration_seconds" [("method", method)]
      = es.countP fun e => e.method = method := by
  rw [Ledger.shown_durations, timedCount, h.timed.count_eq, List.count_eq_countP, List.countP_map]
  exact List.countP_congr fun e _ => by simp

/-- A ledger shows of how many calls a panic got out to recovery. -/
theorem Holds.shown_panics :
    l.shown "gatehouse_panics_recovered_total" [] = es.countP Record.panicked := by
  rw [Ledger.shown_panics, h.recovered]

/-- The calls of a method are divided among the codes, those apart that have none. -/
theorem Holds.sum_shown_requests (method : String) :
    (Code.all.map fun code =>
          l.shown "gatehouse_requests_total" [("code", code.label), ("method", method)]).sum
        + es.countP (fun e => e.method = method ∧ e.code = none)
      = l.shown "gatehouse_request_duration_seconds" [("method", method)] := by
  simp only [Ledger.shown_requests]
  rw [sum_finishedCount, h.shown_durations, (h.finished.map Prod.fst).count_eq, count_entries]

end

end Ledger

/-! ## What is entered around a lane -/

namespace Pipeline

variable {σ ν ρ : Type} {p : Pipeline σ ν}

/-- The state after a call was entered with the collector of a pipeline, if it has one. -/
def enter (p : Pipeline σ ν) (e : Record) (st : State σ ν) : State σ ν :=
  st.count p.metrics fun l => l.enter e

theorem ledgers_enter_congr {st st' : State σ ν} (h : st.ledgers = st'.ledgers) (e : Record) :
    (p.enter e st).ledgers = (p.enter e st').ledgers := State.ledgers_count_congr h ..

/-- Around its lane a call enters its code, and that it was timed. -/
theorem ledgers_record (m : Method) (o : Outcome ρ) (st : State σ ν) :
    (p.recordTime m (p.recordOutcome m o st)).ledgers
      = (p.enter ⟨m.fullName, o.code?, false⟩ st).ledgers := by
  unfold recordTime recordOutcome
  cases o with
  | panicked payload => rfl
  | returned result =>
    dsimp only
    rw [State.count_count]
    rfl

/-- Recovery counts the panics that it catches, before the rest of their calls. -/
theorem ledgers_enter_rescue (m : Method) (id : RequestId) (code : Option Code)
    (made : Outcome ρ × State σ ν) :
    (p.enter ⟨m.fullName, code, false⟩ (Gate.rescue p.metrics m id made).2).ledgers
      = (p.enter ⟨m.fullName, code, made.1.isPanicked⟩ made.2).ledgers := by
  obtain ⟨outcome, st⟩ := made
  cases outcome with
  | returned result => rfl
  | panicked payload =>
    have hreport : (st.report (.panicRecovered m.fullName id payload)).ledgers = st.ledgers := rfl
    simp only [Gate.rescue, enter, State.count_count]
    exact State.ledgers_count_congr hreport ..

/-- **What a call enters** on a guarded lane: the code with which it ends, and whether a panic got out to
recovery. -/
theorem ledgers_run_guarded {lane : List (Gate σ ν ρ)} (hl : ∀ gate ∈ lane, gate.isRecovery = false)
    (m : Method) {handler : Request Payload → StateM (State σ ν) (Outcome ρ)}
    (hh : ∀ r, Keeps Gate.SameLedgers (handler r)) (r : Request Payload) (st : State σ ν)
    (code : Option Code) :
    (p.enter ⟨m.fullName, code, false⟩ (Gate.run (.recovery p.metrics :: lane) m handler r st).2).ledgers
      = (p.enter ⟨m.fullName, code, (Gate.run lane m handler (ensureRequestId r st).1.2
          (ensureRequestId r st).2).1.isPanicked⟩ st).ledgers := by
  have htagged : (ensureRequestId r st).2.ledgers = st.ledgers := Gate.SameLedgers.kept.identify r st
  rw [Gate.run_recovery_cons, ledgers_enter_rescue]
  exact ledgers_enter_congr ((Gate.run_ledgers hl m hh _ _).trans htagged) _

/-- The collector of a pipeline holds some calls, and no other collector holds any. -/
structure Books (p : Pipeline σ ν) (st : State σ ν) (es : List Record) : Prop where
  holds : ∀ c, p.metrics = some c → (st.ledgers c).Holds es
  others : ∀ c, p.metrics ≠ some c → st.ledgers c = {}

theorem Books.congr {st st' : State σ ν} {es es' : List Record} (h : p.Books st es)
    (hl : st'.ledgers = st.ledgers) (he : es' = es) : p.Books st' es' := by
  obtain ⟨hholds, hothers⟩ := h
  rw [← hl, ← he] at hholds
  rw [← hl] at hothers
  exact ⟨hholds, hothers⟩

theorem Books.enter {st st' : State σ ν} {es es' : List Record} {e : Record} (h : p.Books st es)
    (hl : st'.ledgers = (p.enter e st).ledgers) (he : es'.Perm (e :: es)) : p.Books st' es' := by
  rw [Pipeline.enter] at hl
  constructor
  · intro c hc
    rw [hl, hc, State.ledgers_count_self]
    exact (h.holds c hc).enter he
  · intro c hc
    rw [hl, State.ledgers_count_of_ne hc]
    exact h.others c hc

end Pipeline

/-! ## Calls -/

namespace Pipeline

variable {σ ν : Type} {p : Pipeline σ ν}

/-- The reply at the outer end of the unary lane is a panic only if the lane ends in one. -/
theorem isPanicked_restoreReply {β : Type} [Message β] (m : Method) (o : Outcome (Reply Payload))
    (st : State σ ν) : (@restoreReply σ ν β _ m o st).1.isPanicked = o.isPanicked := by
  cases o with
  | panicked payload => rfl
  | returned result =>
    obtain ⟨restored, h⟩ := @restoreReply_returned σ ν β _ m result st
    rw [h]
    rfl

theorem Guarded.callUnary_ledgers {α β : Type} [Message α] [Message β] (hp : p.Guarded) (m : Method)
    (r : Request α) (handler : Request α → StateM (Own σ ν) (Outcome (Reply β))) (st : State σ ν) :
    (p.callUnary m r handler st).2.ledgers
      = (p.enter ⟨m.fullName, (p.callUnary m r handler st).1.code?,
          (p.unguarded.callUnary m (ensureRequestId r st).1.2 handler
            (ensureRequestId r st).2).1.isPanicked⟩ st).ledgers := by
  have hlane := ledgers_run_guarded (p := p) p.isRecovery_unguarded.1 m
    (centre_ledgers m (answering_ledgers handler)) (r.map Message.toPayload) st
  rw [← hp.unary, ensureRequestId_map] at hlane
  simp only [callUnary_eq, ledgers_record, ledgers_enter_congr (ledgers_restoreReply ..), hlane,
    isPanicked_restoreReply]

theorem Guarded.callStream_ledgers {α : Type} [Message α] (hp : p.Guarded) (m : Method) (r : Request α)
    {handler : Request α → StateM (State σ ν) (Outcome Unit)}
    (hh : ∀ r, Keeps Gate.SameLedgers (handler r)) (st : State σ ν) :
    (p.callStream m r handler st).2.ledgers
      = (p.enter ⟨m.fullName, (p.callStream m r handler st).1.code?,
          (p.unguarded.callStream m (ensureRequestId r st).1.2 handler
            (ensureRequestId r st).2).1.isPanicked⟩ st).ledgers := by
  have hlane := ledgers_run_guarded (p := p) p.isRecovery_unguarded.2 m
    (centre_ledgers m hh) (r.map Message.toPayload) st
  rw [← hp.stream, ensureRequestId_map] at hlane
  simp only [callStream_eq, ledgers_record, hlane]

end Pipeline

namespace Call

variable {σ ν : Type}

/-- How the chain of a call ends, its result apart. -/
def ending (p : Pipeline σ ν) : Call σ ν → Pipeline.State σ ν → Outcome Unit
  | @unary _ _ _ _ _ _ m r handler => fun st => (p.callUnary m r handler st).1.map fun _ => ()
  | @stream _ _ _ _ m r handler => fun st =>
    (p.callStream m r (fun r => Pipeline.State.perform (handler r)) st).1
  | @serverStream _ _ _ _ m r handler => fun st =>
    (p.callStream m r (Pipeline.producer handler) { st with outbox := none }).1

/-- What is to be known of a call. A panic got out to recovery if the chain inside it ends in one. -/
def record (p : Pipeline σ ν) (k : Call σ ν) (st : Pipeline.State σ ν) : Record :=
  ⟨k.method.fullName, (k.ending p st).code?,
    ((k.tag st).1.ending p.unguarded (k.tag st).2).isPanicked⟩

/-- **A call enters its record.** -/
theorem ledgers_make {p : Pipeline σ ν} (hp : p.Guarded) (k : Call σ ν) (st : Pipeline.State σ ν) :
    (k.make p st).2.ledgers = (p.enter (k.record p st) st).ledgers := by
  cases k with
  | unary m r handler =>
    simp only [record, ending, tag, Outcome.code?_map, Outcome.isPanicked_map]
    exact hp.callUnary_ledgers m r handler st
  | stream m r handler =>
    exact hp.callStream_ledgers m r (fun r => Gate.SameLedgers.kept.perform (handler r)) st
  | serverStream m r handler =>
    have hcall := hp.callStream_ledgers m r (Pipeline.producer_ledgers handler)
      { st with outbox := none }
    rw [ensureRequestId_unsent] at hcall
    simp only [make, Pipeline.callServerStream_eq, Pipeline.ledgers_delivered]
    have hready : ({ st with outbox := none } : Pipeline.State σ ν).ledgers = st.ledgers := rfl
    exact hcall.trans (Pipeline.ledgers_enter_congr hready (record p (serverStream m r handler) st))

end Call

/-! ## Calls that are dropped -/

namespace Gate

variable {σ ν ρ : Type} {m : Method}
  {handler : Request Payload → StateM (Pipeline.State σ ν) (Outcome ρ)}
  {starts : Request Payload → Bool} {act : StateM (Own σ ν) Unit}

/-- A call that waits inside recovery has not touched the ledgers. -/
theorem ledgers_waiting (hh : ∀ r, Keeps SameLedgers (handler r)) {lane : List (Gate σ ν ρ)}
    (hl : ∀ gate ∈ lane, gate.isRecovery = false) {place : Place} {r : Request Payload}
    {st st' : Pipeline.State σ ν} (h : waiting? m handler starts act place lane r st = some st') :
    st'.ledgers = st.ledgers := by
  induction place generalizing lane r st with
  | entering =>
    cases lane with
    | nil =>
      simp only [waiting?, Option.ite_none_right_eq_some, Option.some.injEq] at h
      rw [← h.2]
      rfl
    | cons gate lane =>
      simp only [waiting?, Option.ite_none_right_eq_some, Option.some.injEq] at h
      rw [← h.2]
      rfl
  | leaving =>
    cases lane with
    | nil => cases h
    | cons gate lane =>
      cases gate with
      | user stage =>
        obtain ⟨-, hlane⟩ := List.forall_mem_cons.mp hl
        have hstage : (userLayer stage m).Steadfast SameLedgers :=
          layer_ledgers (rfl : (user stage : Gate σ ν ρ).isRecovery = false) m
        have hin := hstage.enter r st
        simp only [waiting?] at h
        cases he : (userLayer stage m).enter r st with
        | mk entered st₁ =>
          rw [he] at h hin
          cases entered with
          | answered outcome => cases h
          | passed r₁ leave =>
            obtain rfl := Option.some.inj h
            exact (run_ledgers hlane m hh r₁ st₁).trans hin
      | recovery | admission | rateLimit | authentication | tagging | span => cases h
  | within place ih =>
    cases lane with
    | nil => cases h
    | cons gate lane =>
      obtain ⟨hgate, hlane⟩ := List.forall_mem_cons.mp hl
      have hin := (layer_ledgers hgate m).enter r st
      simp only [waiting?] at h
      cases he : (gate.layer m).enter r st with
      | mk entered st₁ =>
        rw [he] at h hin
        cases entered with
        | answered outcome => cases h
        | passed r₁ leave => exact (ih hlane h).trans hin

/-- A call does not wait in recovery: it has come further in. -/
theorem exists_waiting_of_recovery {metrics : Option Collector} {lane : List (Gate σ ν ρ)} {place : Place}
    {r : Request Payload} {st st' : Pipeline.State σ ν}
    (h : waiting? m handler starts act place (.recovery metrics :: lane) r st = some st') :
    ∃ inner, waiting? m handler starts act inner lane (ensureRequestId r st).1.2 (ensureRequestId r st).2
      = some st' := by
  cases place with
  | entering | leaving => cases h
  | within place =>
    simp only [waiting?, layer, recoveryLayer_enter] at h
    exact ⟨place, h⟩

/-- A call that waits on a guarded lane has not touched the ledgers. -/
theorem ledgers_waiting_guarded (hh : ∀ r, Keeps SameLedgers (handler r)) {lane : List (Gate σ ν ρ)}
    (hl : ∀ gate ∈ lane, gate.isRecovery = false) {metrics : Option Collector} {place : Place}
    {r : Request Payload} {st st' : Pipeline.State σ ν}
    (h : waiting? m handler starts act place (.recovery metrics :: lane) r st = some st') :
    st'.ledgers = st.ledgers := by
  obtain ⟨inner, hinner⟩ := exists_waiting_of_recovery h
  exact (ledgers_waiting hh hl hinner).trans (SameLedgers.kept.identify r st)

end Gate

namespace Drop

variable {σ ν : Type}

/-- What is to be known of a call that is dropped. -/
def record (d : Drop σ ν) : Record := ⟨d.call.method.fullName, none, false⟩

/-- **A call that is dropped** enters that it was timed. -/
theorem ledgers_leave {p : Pipeline σ ν} (hp : p.Guarded) {d : Drop σ ν} {st st' : Pipeline.State σ ν}
    (h : d.leave? p st = some st') : st'.ledgers = (p.enter d.record st).ledgers := by
  obtain ⟨k, place, act⟩ := d
  obtain ⟨st₁, hwaiting, rfl⟩ := Option.map_eq_some_iff.mp h
  have hsame : st₁.ledgers = st.ledgers := by
    cases k with
    | unary m r handler =>
      simp only [Call.waiting?, hp.unary] at hwaiting
      exact Gate.ledgers_waiting_guarded
        (Pipeline.centre_ledgers m (Pipeline.answering_ledgers handler)) p.isRecovery_unguarded.1 hwaiting
    | stream m r handler =>
      simp only [Call.waiting?, hp.stream] at hwaiting
      exact Gate.ledgers_waiting_guarded
        (Pipeline.centre_ledgers m fun r => Gate.SameLedgers.kept.perform (handler r))
        p.isRecovery_unguarded.2 hwaiting
    | serverStream m r handler => cases hwaiting
  exact Pipeline.ledgers_enter_congr hsame ⟨k.method.fullName, none, false⟩

end Drop

/-! ## Streams -/

namespace Exchange

variable {σ ν : Type} {p : Pipeline σ ν}

/-- A guarded lane is what is inside recovery, on the request with an identifier. -/
theorem lane_enter (hp : p.Guarded) (m : Method) (r : Request Payload) (st : Pipeline.State σ ν) :
    (lane p m).enter r st
      = let tagged := ensureRequestId r st
        match (lane p.unguarded m).enter tagged.1.2 tagged.2 with
        | (.answered outcome, st₁) =>
          let rescued := Gate.rescue p.metrics m tagged.1.1 (outcome, st₁)
          (.answered rescued.1, rescued.2)
        | (.passed q leave, st₁) =>
          (.passed q fun outcome st => Gate.rescue p.metrics m tagged.1.1 (leave outcome st), st₁) := by
  have hlane : lane p m = (Gate.recoveryLayer p.metrics m).before (lane p.unguarded m) := by
    unfold lane
    rw [hp.stream]
    rfl
  rw [hlane, Layer.before]
  simp only [Gate.recoveryLayer_enter]
  cases (lane p.unguarded m).enter (ensureRequestId r st).1.2 (ensureRequestId r st).2 with
  | mk entered st₁ => cases entered <;> rfl

/-- What is inside recovery does not touch the ledgers. -/
theorem lane_ledgers (p : Pipeline σ ν) (m : Method) :
    (lane p.unguarded m).Steadfast Gate.SameLedgers := by
  refine Layer.fuse_steadfast Gate.SameLedgers.kept.refl Gate.SameLedgers.kept.trans ?_
  intro l hl
  obtain ⟨gate, hg, rfl⟩ := List.mem_map.mp hl
  exact Gate.layer_ledgers (p.isRecovery_unguarded.2 gate hg) m

/-- A lane that ends enters its call. -/
theorem ledgers_account (m : Method) (id : RequestId) (made : Outcome Unit × Pipeline.State σ ν) :
    (account p m (Gate.rescue p.metrics m id made)).2.ledgers
      = (p.enter ⟨m.fullName, (Gate.rescue p.metrics m id made).1.code?, made.1.isPanicked⟩
          made.2).ledgers := by
  simp only [account, Pipeline.ledgers_record, Pipeline.ledgers_enter_rescue]

end Exchange

namespace Stream

variable {σ ν : Type} {p : Pipeline σ ν} {o o' : Stream σ ν} {st st' : Pipeline.State σ ν}
  {a : ExchangeStep}

/-- The request of a stream as recovery passes it on, with its identifier and the state then. -/
def tagged (o : Stream σ ν) : (RequestId × Request o.α) × Pipeline.State σ ν :=
  ensureRequestId o.request o.found

/-- The call of a stream as what is inside recovery sees it. -/
def inner (p : Pipeline σ ν) (o : Stream σ ν) : Outcome Unit × Pipeline.State σ ν :=
  Gate.run p.unguarded.stream o.method (Pipeline.centre o.method fun (_ : Request o.α) _ => o.left)
    (o.tagged.1.2.map Message.toPayload) o.tagged.2

/-- What is to be known of the call of a stream. -/
def record (p : Pipeline σ ν) (o : Stream σ ν) : Record :=
  ⟨o.method.fullName, (o.chain p).1.code?, (o.inner p).1.isPanicked⟩

/-- The record of a stream, once its lane has ended. -/
def record? (p : Pipeline σ ν) (o : Stream σ ν) : Option Record :=
  match o.exchange.task with
  | .arriving => none
  | .sending _ _ => none
  | .reporting _ => some (o.record p)
  | .finished _ => some (o.record p)

theorem inner_eq (p : Pipeline σ ν) (o : Stream σ ν) :
    o.inner p = (lane p.unguarded o.method).around
      (Pipeline.centre o.method fun (_ : Request o.α) _ => o.left)
      (o.tagged.1.2.map Message.toPayload) o.tagged.2 := by
  unfold inner Gate.run
  rw [Layer.chain_eq_around]
  rfl

/-- Recovery lets out how a stream ends inside it. -/
theorem chain_rescued (hp : p.Guarded) (o : Stream σ ν) :
    (o.chain p).1 = (Gate.rescue p.metrics o.method o.tagged.1.1 (o.inner p)).1 := by
  have hrun := Gate.run_recovery_cons p.metrics p.unguarded.stream o.method
    (Pipeline.centre o.method fun (_ : Request o.α) _ => o.left)
    (o.request.map Message.toPayload) o.found
  rw [← hp.stream, ensureRequestId_map] at hrun
  rw [chain, Pipeline.callStream_eq, hrun]
  rfl

/-- A lane that ends enters the record of its stream. -/
theorem ledgers_ended (hp : p.Guarded) (o : Stream σ ν) {made : Outcome Unit × Pipeline.State σ ν}
    (hi : o.inner p = made) :
    (account p o.method (Gate.rescue p.metrics o.method o.tagged.1.1 made)).2.ledgers
      = (p.enter (o.record p) made.2).ledgers := by
  rw [Exchange.ledgers_account, record, o.chain_rescued hp, hi]

/-- The way in of a stream, as recovery lets it out. -/
theorem lane_enter (hp : p.Guarded) (o : Stream σ ν) :
    (lane p o.method).enter (o.request.map Message.toPayload) o.found
      = match (lane p.unguarded o.method).enter (o.tagged.1.2.map Message.toPayload) o.tagged.2 with
        | (.answered outcome, st₁) =>
          let rescued := Gate.rescue p.metrics o.method o.tagged.1.1 (outcome, st₁)
          (.answered rescued.1, rescued.2)
        | (.passed q leave, st₁) =>
          (.passed q fun outcome st =>
            Gate.rescue p.metrics o.method o.tagged.1.1 (leave outcome st), st₁) := by
  rw [Exchange.lane_enter hp, ensureRequestId_map]
  rfl

/-- The way in of a stream enters its record if it ends the call. -/
theorem ledgers_arrived (hp : p.Guarded) (o : Stream σ ν) {x : Exchange σ ν} (hx : x.state = o.found) :
    let y := x.arrive p o.method o.request o.handler
    ((∃ s leave, y.task = .sending s leave) ∧ y.state.ledgers = o.found.ledgers)
      ∨ ((∃ outcome, y.task = .reporting outcome)
        ∧ y.state.ledgers = (p.enter (o.record p) o.found).ledgers) := by
  have hlane := Exchange.lane_ledgers p o.method
  have he := o.lane_enter hp
  have hinner := o.inner_eq p
  have htagged : o.tagged.2.ledgers = o.found.ledgers := by
    rw [tagged, ensureRequestId_eq]
  have hin := hlane.enter (o.tagged.1.2.map Message.toPayload) o.tagged.2
  simp only [Layer.around] at hinner
  cases hu : (lane p.unguarded o.method).enter (o.tagged.1.2.map Message.toPayload) o.tagged.2 with
  | mk entered st₁ =>
    rw [hu] at he hinner hin
    have hst : st₁.ledgers = o.found.ledgers := Eq.trans hin htagged
    cases entered with
    | answered outcome =>
      simp only [Exchange.arrive, hx, he]
      exact .inr ⟨⟨_, rfl⟩, (o.ledgers_ended hp hinner).trans (Pipeline.ledgers_enter_congr hst _)⟩
    | passed q leave =>
      cases ha : (Message.ofPayload? q.message : Option o.α) with
      | some message =>
        simp only [Exchange.arrive, hx, he, ha]
        exact .inl ⟨⟨_, _, rfl⟩, hst⟩
      | none =>
        simp only [Exchange.arrive, hx, he, ha]
        simp only [Pipeline.centre, ha] at hinner
        have hleave : _ = st₁.ledgers := hlane.leave hu (.failed .internal)
          (st₁.report (.requestTypeChanged o.method.fullName))
        exact .inr ⟨⟨_, rfl⟩, (o.ledgers_ended hp hinner).trans
          (Pipeline.ledgers_enter_congr (hleave.trans hst) _)⟩

/-- The way out of a stream enters its record. -/
theorem ledgers_finished (hp : p.Guarded) {outcome : Outcome Unit}
    (hl : o.left = (outcome, st)) {leave : Outcome Unit → StateM (Pipeline.State σ ν) (Outcome Unit)}
    {q : Request Payload} {message : o.α} {st₁ : Pipeline.State σ ν}
    (he : (lane p o.method).enter (o.request.map Message.toPayload) o.found = (.passed q leave, st₁))
    (hmsg : (Message.ofPayload? q.message : Option o.α) = some message) :
    (account p o.method (leave outcome st)).2.ledgers = (p.enter (o.record p) st).ledgers := by
  have hinner := o.inner_eq p
  simp only [Layer.around] at hinner
  rw [o.lane_enter hp] at he
  cases hu : (lane p.unguarded o.method).enter (o.tagged.1.2.map Message.toPayload) o.tagged.2 with
  | mk entered st₂ =>
    rw [hu] at he hinner
    cases entered with
    | answered outcome => cases he
    | passed q' leave' =>
      cases he
      simp only [Pipeline.centre, hmsg, hl] at hinner
      have hleave : _ = st.ledgers := (Exchange.lane_ledgers p o.method).leave hu outcome st
      exact (o.ledgers_ended hp hinner).trans (Pipeline.ledgers_enter_congr hleave _)

/-- **A step of a stream** leaves the ledgers alone, unless it ends the lane; then it enters the record of
the stream. -/
theorem ledgers_acted (hp : p.Guarded) (hf : o.Follows p) (ha : o.act p st a = some (o', st')) :
    (o'.record? p = o.record? p ∧ st'.ledgers = st.ledgers)
      ∨ (o.record? p = none ∧ o'.record? p = some (o'.record p)
        ∧ st'.ledgers = (p.enter (o'.record p) st).ledgers) := by
  obtain ⟨x, hx, rfl, rfl⟩ := act_stepped ha
  have hresumed : (o.resumed st).state.ledgers = st.ledgers := rfl
  cases hx with
  | arrive ht =>
    have ht : o.exchange.task = .arriving := ht
    have hrecord : o.record? p = none := by simp only [record?, ht]
    simp only [foundBy, leftBy, ht]
    rcases ledgers_arrived hp { o with found := (o.resumed st).state } rfl with
      ⟨⟨s, leave, hs⟩, hl⟩ | ⟨⟨outcome, hs⟩, hl⟩
    · left
      refine ⟨?_, hl⟩
      rw [hrecord, record?]
      simp only [hs]
    · right
      refine ⟨hrecord, ?_, hl.trans (Pipeline.ledgers_enter_congr hresumed _)⟩
      rw [record?]
      simp only [hs]
  | taken ht | lost ht =>
    have ht : o.exchange.task = _ := ht
    left
    simp only [record?, ht]
    exact ⟨trivial, rfl⟩
  | @finish outcome leave ht =>
    have ht : o.exchange.task = _ := ht
    right
    simp only [foundBy, leftBy, ht]
    cases hf with
    | arriving h => cases h.symm.trans ht
    | sending h he hmsg =>
      cases h.symm.trans ht
      have hended := ledgers_finished (o := { o with left := (outcome, (o.resumed st).state) })
        hp rfl he hmsg
      refine ⟨?_, rfl, hended.trans (Pipeline.ledgers_enter_congr hresumed _)⟩
      simp only [record?, ht]
    | ended h => rcases h with h | h <;> cases h.symm.trans ht
  | report ht | unheard ht | done ht =>
    have ht : o.exchange.task = _ := ht
    left
    simp only [record?, ht, foundBy, leftBy]
    exact ⟨rfl, rfl⟩
  | hear | miss | read | close | drop => exact .inl ⟨rfl, rfl⟩
  | @join outcome hr ht =>
    left
    cases outcome with
    | panicked payload => exact ⟨rfl, rfl⟩
    | returned result => cases result <;> exact ⟨rfl, rfl⟩

end Stream

/-! ## Runs -/

namespace Traffic

variable {σ ν : Type} {p : Pipeline σ ν} {u : σ} {minted : Mint} {es : List (Event σ ν)} {t : Traffic σ ν}

/-- What is to be known of the calls and streams of a run. -/
def records (p : Pipeline σ ν) (t : Traffic σ ν) : List Record :=
  t.calls.map (fun x => x.1.record p x.2) ++ t.drops.map Drop.record ++ t.streams.map (Stream.record p)

/-- What has been entered: all calls, and the streams whose lanes have ended. -/
def entered (p : Pipeline σ ν) (t : Traffic σ ν) : List Record :=
  t.calls.map (fun x => x.1.record p x.2) ++ t.drops.map Drop.record
    ++ t.streams.filterMap (Stream.record? p)

/-- Once all tasks have finished, everything has been entered. -/
theorem entered_of_done (hd : t.Done) : t.entered p = t.records p := by
  unfold entered records
  congr 1
  rw [← List.filterMap_eq_map]
  refine List.filterMap_congr ?_
  intro o ho
  obtain ⟨outcome, hs⟩ := hd o ho
  simp only [Stream.record?, hs, Function.comp_apply]

/-- An event enters what it ends. -/
theorem Stepped.books (hp : p.Guarded) {t t' : Traffic σ ν} {e : Event σ ν} (hs : Stepped p t e t')
    (hf : ∀ o ∈ t.streams, o.Follows p) (h : p.Books t.state (t.entered p)) :
    p.Books t'.state (t'.entered p) := by
  cases hs with
  | wait nanos => exact h.congr rfl rfl
  | call k =>
    refine h.enter (Call.ledgers_make hp k t.state) ?_
    simp only [entered, List.map_append, List.map_cons, List.map_nil, List.append_assoc,
      List.singleton_append]
    exact List.perm_middle
  | @drop d st hd =>
    refine h.enter (Drop.ledgers_leave hp hd) ?_
    have hlast : Traffic.entered p { t with state := st, drops := t.drops ++ [d] }
        = (t.calls.map (fun x => x.1.record p x.2) ++ t.drops.map Drop.record)
          ++ d.record :: t.streams.filterMap (Stream.record? p) := by
      simp [entered]
    rw [hlast]
    exact List.perm_middle
  | opened m r handler =>
    have hnone : (Stream.opened m r handler t.state).record? p = none := rfl
    refine h.congr rfl ?_
    simp only [entered, List.filterMap_append, List.filterMap_cons_none hnone, List.filterMap_nil,
      List.append_nil]
  | @act i a before o after o' st hs ha =>
    have ho : o.Follows p := hf o (by simp [hs])
    simp only [entered, hs, List.filterMap_append] at h ⊢
    rcases Stream.ledgers_acted hp ho ha with ⟨hrecord, hledgers⟩ | ⟨hnone, hsome, hledgers⟩
    · refine h.congr hledgers ?_
      simp only [List.filterMap_cons, hrecord]
    · refine h.enter hledgers ?_
      rw [List.filterMap_cons_none hnone, List.filterMap_cons_some hsome]
      simp only [← List.append_assoc]
      exact List.perm_middle

/-- **At every point of a run the collector holds what has been entered.** -/
theorem books (hp : p.Guarded) (ht : (start p u minted).run p es = some t) :
    p.Books t.state (t.entered p) := by
  refine (run_induction (P := fun _ t => (∀ o ∈ t.streams, o.Follows p)
    ∧ p.Books t.state (t.entered p)) ?_ ⟨?_, ⟨fun _ _ => Ledger.holds_nil, fun _ _ => rfl⟩⟩ ht).2
  · rintro _ e t t' ⟨hf, h⟩ hs
    exact ⟨hs.follows hf, hs.books hp hf h⟩
  · intro o ho
    cases ho

/-- Events that call a method are calls, to their end or not, or the beginnings of streams. -/
theorem countP_called (es : List (Event σ ν)) (method : String) :
    let calls := fun e : Event σ ν => e.method?.any fun m => m.fullName = method
    es.countP calls = (es.filter Event.isCall).countP calls + (es.filter Event.isDrop).countP calls
      + (es.filter Event.isOpened).countP calls := by
  intro calls
  induction es with
  | nil => rfl
  | cons e es ih =>
    rw [List.countP_cons, ih]
    cases e with
    | wait nanos => rfl
    | act i a => rfl
    | call k =>
      rw [List.filter_cons_of_pos rfl, List.filter_cons_of_neg (by simp [Event.isDrop]),
        List.filter_cons_of_neg (by simp [Event.isOpened]), List.countP_cons]
      omega
    | drop d =>
      rw [List.filter_cons_of_neg (by simp [Event.isCall]), List.filter_cons_of_pos rfl,
        List.filter_cons_of_neg (by simp [Event.isOpened]), List.countP_cons]
      omega
    | opened m r handler =>
      rw [List.filter_cons_of_neg (by simp [Event.isCall]),
        List.filter_cons_of_neg (by simp [Event.isDrop]), List.filter_cons_of_pos rfl, List.countP_cons]
      omega

/-- The calls and streams of a method are the events that call it. -/
theorem countP_records (ht : (start p u minted).run p es = some t) (method : String) :
    (t.records p).countP (fun e => e.method = method)
      = es.countP fun e => e.method?.any fun m => m.fullName = method := by
  obtain ⟨hcalls, hdrops, hstreams⟩ := called ht
  rw [countP_called, ← hcalls, ← hdrops, ← hstreams, records, List.countP_append, List.countP_append]
  simp only [List.countP_map]
  rfl

/-- Where calls and streams end with a code, the calls without one are those that were dropped. -/
theorem countP_dropped (ht : (start p u minted).run p es = some t)
    (hcalls : ∀ x ∈ t.calls, (x.1.record p x.2).code.isSome)
    (hstreams : ∀ o ∈ t.streams, (o.record p).code.isSome) (method : String) :
    (t.records p).countP (fun e => e.method = method ∧ e.code = none)
      = (es.filter Event.isDrop).countP fun e => e.method?.any fun m => m.fullName = method := by
  have hended : ∀ rs : List Record, (∀ e ∈ rs, e.code.isSome) →
      rs.countP (fun e => e.method = method ∧ e.code = none) = 0 := by
    intro rs hrs
    refine List.countP_eq_zero.mpr ?_
    intro e he hnone
    have hcode := hrs e he
    rw [(of_decide_eq_true hnone).2] at hcode
    cases hcode
  have hrecords : t.records p = t.calls.map (fun x => x.1.record p x.2) ++ t.drops.map Drop.record
      ++ t.streams.map (Stream.record p) := rfl
  rw [hrecords, List.countP_append, List.countP_append, hended _ (List.forall_mem_map.mpr hcalls),
    hended _ (List.forall_mem_map.mpr hstreams), ← (called ht).drops]
  simp only [List.countP_map, Nat.zero_add, Nat.add_zero]
  refine List.countP_congr ?_
  intro d _
  simp only [Function.comp_apply, Drop.record, and_true, Event.method?, Option.any_some]

end Traffic

/-! ## What a record says -/

namespace Call

variable {σ ν : Type} {p : Pipeline σ ν}

/-- The reply that comes out of the lane of a call is not of the type that its caller was promised. -/
def Mistyped (p : Pipeline σ ν) : Call σ ν → Pipeline.State σ ν → Prop
  | @unary _ _ _ β _ _ m r handler => fun st => ∃ reply,
    (Gate.run p.unary m (Pipeline.centre m (Pipeline.answering handler)) (r.map Message.toPayload)
      st).1 = .ok reply ∧ (Message.ofPayload? reply.message : Option β) = none
  | _ => fun _ => False

/-- What a record says of a call: the code is that with which its chain ends, which is what its caller
learns; and a panic got out to recovery if one gets out of the lane inside it, as all do that arise
there if the stages let panics by. -/
structure Recorded (p : Pipeline σ ν) (k : Call σ ν) (st : Pipeline.State σ ν) (e : Record) :
    Prop where
  method : e.method = k.method.fullName
  returned : ∃ result, k.ending p st = .returned result ∧ e.code = some (resultCode result)
  succeeded : k.ending p st = .ok () → ∃ answer, (k.answer p st).1 = .ok answer
  failed : ∀ s, k.ending p st = .failed s → (k.answer p st).1 = failing s (k.sent p st)
  panicked : e.panicked = true ↔ ∃ payload, (k.tag st).1.Panics p.unguarded (k.tag st).2 payload
  arisen : p.LetsPanicsBy →
    (e.panicked = true ↔ ∃ payload, (k.tag st).1.PanicArises p.unguarded (k.tag st).2 payload)
  internal : e.panicked = true ∨ k.Mistyped p st → k.ending p st = .failed .internal

theorem Recorded.isSome_code {k : Call σ ν} {st : Pipeline.State σ ν} {e : Record}
    (h : k.Recorded p st e) : e.code.isSome := by
  obtain ⟨result, -, hcode⟩ := h.returned
  rw [hcode]
  rfl

/-- A call whose chain succeeds has a good answer. -/
theorem answer_of_ok (k : Call σ ν) (st : Pipeline.State σ ν) (h : k.ending p st = .ok ()) :
    ∃ answer, (k.answer p st).1 = .ok answer := by
  cases k with
  | unary m r handler =>
    simp only [ending] at h
    simp only [answer]
    cases ho : (p.callUnary m r handler st).1 with
    | panicked payload => rw [ho] at h; cases h
    | returned result =>
      rw [ho] at h
      cases result with
      | error s => cases h
      | ok reply => exact ⟨_, rfl⟩
  | stream m r handler =>
    simp only [ending] at h
    simp only [answer, h]
    exact ⟨_, rfl⟩
  | serverStream m r handler =>
    simp only [ending] at h
    simp only [answer, Pipeline.callServerStream_eq, h]
    unfold Pipeline.delivered
    cases (p.callStream m r (Pipeline.producer handler) { st with outbox := none }).2.outbox with
    | none => exact ⟨_, rfl⟩
    | some items => exact ⟨_, rfl⟩

/-- A call whose chain fails answers with its status. -/
theorem answer_of_failed (k : Call σ ν) (st : Pipeline.State σ ν) {s : Status}
    (h : k.ending p st = .failed s) : (k.answer p st).1 = failing s (k.sent p st) := by
  cases k with
  | unary m r handler =>
    simp only [ending] at h
    simp only [answer, sent, failing]
    cases ho : (p.callUnary m r handler st).1 with
    | panicked payload => rw [ho] at h; cases h
    | returned result =>
      rw [ho] at h
      cases result with
      | error s' => cases h; rfl
      | ok reply => cases h
  | stream m r handler =>
    simp only [ending] at h
    simp only [answer, h]
    rfl
  | serverStream m r handler =>
    simp only [ending] at h
    simp only [answer, sent, Pipeline.callServerStream_eq, h]
    unfold failing Pipeline.delivered
    cases (p.callStream m r (Pipeline.producer handler) { st with outbox := none }).2.outbox with
    | none => rfl
    | some items => rfl

/-- The chain of a call ends in a panic exactly if one gets out of its lane. -/
theorem isPanicked_ending_iff (p : Pipeline σ ν) (k : Call σ ν) (st : Pipeline.State σ ν) :
    (k.ending p st).isPanicked = true ↔ ∃ payload, k.Panics p st payload := by
  cases k with
  | unary m r handler =>
    simp only [ending, Outcome.isPanicked_map, Pipeline.callUnary_eq,
      Pipeline.isPanicked_restoreReply, Outcome.isPanicked_iff, Panics, Gate.panics_iff]
  | stream m r handler =>
    simp only [ending, Pipeline.callStream_eq, Outcome.isPanicked_iff, Panics, Gate.panics_iff]
  | serverStream m r handler =>
    simp only [ending, Pipeline.callStream_eq, Outcome.isPanicked_iff, Panics, Gate.panics_iff]

/-- Recovery lets the chain of a call with a panic end with one fixed status. -/
theorem ending_of_panics (hp : p.Guarded) (k : Call σ ν) (st : Pipeline.State σ ν)
    {payload : Option String} (h : (k.tag st).1.Panics p.unguarded (k.tag st).2 payload) :
    k.ending p st = .failed .internal := by
  cases k with
  | unary m r handler =>
    simp only [ending, ((hp.callUnary m r handler st).panicked payload h).1]
    rfl
  | stream m r handler =>
    have hh := fun r => Gate.SameLedgers.kept.perform (handler r)
    exact ((hp.callStream m r hh st).panicked payload h).1
  | serverStream m r handler => exact ((stream_recovered hp m r handler st).panicked payload h).1

/-- The chain of a call ends with the same status where its reply has changed its type. -/
theorem ending_of_mistyped (k : Call σ ν) (st : Pipeline.State σ ν) (h : k.Mistyped p st) :
    k.ending p st = .failed .internal := by
  cases k with
  | unary m r handler =>
    obtain ⟨reply, hlane, htype⟩ := h
    simp only [ending, Pipeline.callUnary_eq, hlane, Outcome.ok, Pipeline.restoreReply, htype]
    rfl
  | stream | serverStream => exact h.elim

/-- The chain of a call on a guarded pipeline returns. -/
theorem ending_returned (hp : p.Guarded) (k : Call σ ν) (st : Pipeline.State σ ν) :
    ∃ result, k.ending p st = .returned result := by
  have hstream := fun (m : Method) (r : Request Payload) (st : Pipeline.State σ ν) =>
    (hp.lanes_return m r st).2
  cases k with
  | @unary α β _ _ m r handler =>
    obtain ⟨result, hlane⟩ := (hp.lanes_return m (r.map Message.toPayload) st).1
      (Pipeline.centre m (Pipeline.answering handler))
    obtain ⟨restored, hrestored⟩ := @Pipeline.restoreReply_returned σ ν β _ m result
      (Gate.run p.unary m (Pipeline.centre m (Pipeline.answering handler))
        (r.map Message.toPayload) st).2
    simp only [ending, Pipeline.callUnary_eq, hlane, hrestored]
    exact ⟨_, rfl⟩
  | stream m r handler => exact hstream m _ st _
  | serverStream m r handler => exact hstream m _ _ _

theorem recorded (hp : p.Guarded) (k : Call σ ν) (st : Pipeline.State σ ν) :
    k.Recorded p st (k.record p st) := by
  obtain ⟨result, hresult⟩ := k.ending_returned hp st
  have hpanicked := isPanicked_ending_iff p.unguarded (k.tag st).1 (k.tag st).2
  refine ⟨rfl, ⟨result, hresult, by simp only [record, hresult, Outcome.code?]⟩,
    k.answer_of_ok st, fun s => k.answer_of_failed st, hpanicked, ?_, ?_⟩
  · intro hlets
    simp only [panicArises_iff hlets]
    exact hpanicked
  · rintro (h | h)
    · obtain ⟨payload, h⟩ := hpanicked.mp h
      exact k.ending_of_panics hp st h
    · exact k.ending_of_mistyped st h

end Call

namespace Stream

variable {σ ν : Type} {p : Pipeline σ ν}

/-- What a record says of a stream whose task has finished: the code is that with which its lane has ended
the call; and a panic got out to recovery if one gets out of the lane inside it. -/
structure Recorded (p : Pipeline σ ν) (o : Stream σ ν) (e : Record) : Prop where
  method : e.method = o.method.fullName
  finished : ∃ result, o.exchange.task = .finished (.returned result)
    ∧ (o.chain p).1 = .returned result ∧ e.code = some (resultCode result)
  panicked : e.panicked = true ↔ ∃ payload, Gate.Panics o.method
    (Pipeline.centre o.method fun (_ : Request o.α) _ => o.left) p.unguarded.stream
    (o.tagged.1.2.map Message.toPayload) o.tagged.2 payload
  arisen : p.LetsPanicsBy → (e.panicked = true ↔ ∃ payload, Gate.PanicArises o.method
    (Pipeline.centre o.method fun (_ : Request o.α) _ => o.left) p.unguarded.stream
    (o.tagged.1.2.map Message.toPayload) o.tagged.2 payload)
  internal : e.panicked = true → (o.chain p).1 = .failed .internal

theorem Recorded.isSome_code {o : Stream σ ν} {e : Record} (h : o.Recorded p e) : e.code.isSome := by
  obtain ⟨result, -, -, hcode⟩ := h.finished
  rw [hcode]
  rfl

theorem recorded (hp : p.Guarded) {o : Stream σ ν} (hf : o.Follows p) {outcome : Outcome Unit}
    (hs : o.exchange.task = .finished outcome) : o.Recorded p (o.record p) := by
  have hchain : (o.chain p).1 = outcome := by
    cases hf with
    | arriving h => cases h.symm.trans hs
    | sending h => cases h.symm.trans hs
    | ended h hc =>
      rcases h with h | h <;> cases h.symm.trans hs
      exact hc
  have hrescued := o.chain_rescued hp
  obtain ⟨result, hresult⟩ := Gate.rescue_returned p.metrics o.method o.tagged.1.1 (o.inner p)
  rw [hresult] at hrescued
  have hend : outcome = .returned result := hchain.symm.trans hrescued
  have hpanicked : (o.record p).panicked = true ↔ ∃ payload, Gate.Panics o.method
      (Pipeline.centre o.method fun (_ : Request o.α) _ => o.left) p.unguarded.stream
      (o.tagged.1.2.map Message.toPayload) o.tagged.2 payload := by
    simp only [record, Outcome.isPanicked_iff, Gate.panics_iff]
    rfl
  refine ⟨rfl, ⟨result, ?_, hrescued, ?_⟩, hpanicked, ?_, ?_⟩
  · rw [hs, hend]
  · simp only [record, hrescued, Outcome.code?]
  · intro hlets
    simp only [Gate.panicArises_iff p.isRecovery_unguarded.2 hlets.unguarded.stream]
    exact hpanicked
  · intro h
    obtain ⟨payload, h⟩ := Outcome.isPanicked_iff.mp h
    rw [o.chain_rescued hp, show o.inner p = (.panicked payload, (o.inner p).2) from Prod.ext h rfl]
    rfl

end Stream

/-! ## The main statement -/

section

variable {σ ν : Type}

/-- **Every call is accounted for.** For a pipeline built from options with recovery and metrics among
them, the last of which give the collector `c`, and every run of calls and of streams that go on side by
side, whatever the stages and the handlers do, once all tasks of streams have finished:
* the calls that were made, those that were dropped while they waited, and the streams that were called
  are those of the run;
* for each method and code, as many requests are shown as there were calls of the method whose chain
  ended with the code;
* for each method, as many durations are shown as there were calls of it. This is the sum of its requests
  over all codes and the number of its calls that were dropped, and so that sum alone if none was;
* as many caught panics are shown as there were calls of which a panic got out to recovery;
* no other collector shows anything;
* what counts for a call is how its chain ends, for its caller learns just that; a panic that got out to
  recovery and a reply that has changed its type count as internal. If the stages let panics by, all
  panics get out that arise;
* what counts for a stream is how its lane has ended, also if its handler had been started and whatever
  its caller has read. -/
theorem calls_accounted (os : List (PipelineOption σ ν)) {p : Pipeline σ ν}
    (hp : (({} : Builder σ ν).applyAll os).build = .ok p) (hr : os.any PipelineOption.isRecovery)
    {c : Collector} (hm : PipelineOption.last? PipelineOption.metrics? os = some c)
    (u : σ) (minted : Mint) {es : List (Traffic.Event σ ν)} {t : Traffic σ ν}
    (ht : (Traffic.start p u minted).run p es = some t) (hd : t.Done) :
    let shown := (t.state.ledgers c).shown
    let requests := fun method code =>
      shown "gatehouse_requests_total" [("code", Code.label code), ("method", method)]
    let durations := fun method => shown "gatehouse_request_duration_seconds" [("method", method)]
    let calling := fun (method : String) (e : Traffic.Event σ ν) =>
      e.method?.any fun m => m.fullName = method
    t.Called es
    ∧ (∀ method code, requests method code
        = (t.records p).countP fun e => e.method = method ∧ e.code = some code)
    ∧ (∀ method,
        durations method = es.countP (calling method)
        ∧ durations method = (Code.all.map (requests method)).sum
          + (es.filter Traffic.Event.isDrop).countP (calling method)
        ∧ ((∀ e ∈ es, e.isDrop = false) → durations method = (Code.all.map (requests method)).sum))
    ∧ shown "gatehouse_panics_recovered_total" [] = (t.records p).countP Record.panicked
    ∧ (∀ c', c' ≠ c → t.state.ledgers c' = {})
    ∧ (∀ x ∈ t.calls, x.1.Recorded p x.2 (x.1.record p x.2))
    ∧ ∀ o ∈ t.streams, o.Recorded p (o.record p) := by
  intro shown requests durations calling
  obtain ⟨hguarded, hmetrics⟩ := guarded_of_build hp hr
  obtain ⟨hholds, hothers⟩ := Traffic.books hguarded ht
  rw [Traffic.entered_of_done hd] at hholds
  rw [hmetrics, hm] at hholds hothers
  have hledger := hholds c rfl
  have hcalls : ∀ x ∈ t.calls, x.1.Recorded p x.2 (x.1.record p x.2) :=
    fun x _ => x.1.recorded hguarded x.2
  have hstreams : ∀ o ∈ t.streams, o.Recorded p (o.record p) := by
    intro o ho
    obtain ⟨outcome, hs⟩ := hd o ho
    exact Stream.recorded hguarded (Traffic.follows ht o ho) hs
  have hdropped := Traffic.countP_dropped ht
    (fun x hx => (hcalls x hx).isSome_code) (fun o ho => (hstreams o ho).isSome_code)
  refine ⟨Traffic.called ht, hledger.shown_requests, ?_, hledger.shown_panics, ?_, hcalls, hstreams⟩
  · intro method
    have hsum : durations method = (Code.all.map (requests method)).sum
        + (es.filter Traffic.Event.isDrop).countP (calling method) := by
      rw [← hdropped]
      exact (hledger.sum_shown_requests method).symm
    refine ⟨(hledger.shown_durations method).trans (Traffic.countP_records ht method), hsum, ?_⟩
    intro hnone
    have hfilter : es.filter Traffic.Event.isDrop = [] :=
      List.filter_eq_nil_iff.mpr fun e he => by simp [hnone e he]
    rw [hsum, hfilter, List.countP_nil, Nat.add_zero]
  · intro c' hc
    exact hothers c' fun h => hc (Option.some.inj h).symm

/-- While a stream is open that fails after its first item, a call of another method panics, and a
second one is dropped while its handler waits: the first two are shown with their codes, all three are
timed, and one panic is shown. The collector that was given first shows nothing. -/
theorem calls_accounted_side_by_side :
    let os : List (PipelineOption Unit Unit) := [.metrics ⟨1⟩, .recovery, .metrics ⟨2⟩]
    let watch : Request String := { message := "watch" }
    let feed : Request String → StateM (Own Unit Unit) Sending := fun _ =>
      pure (.send (.ok (.number 7)) fun _ => .finish (.failed ⟨.aborted, "feed closed"⟩))
    let crash : Request String → StateM (Own Unit Unit) (Outcome (Reply String)) := fun _ =>
      pure (.panicked (some "boom"))
    let ping : Call Unit Unit := .unary (.unary "/S/Ping") { message := "ping" } crash
    let es : List (Traffic.Event Unit Unit) :=
      [.opened (.stream "/S/Watch") watch feed, .act 0 .work, .call ping,
        .drop ⟨ping, .within (.within .entering), pure ()⟩, .act 0 .work, .act 0 .work, .act 0 .work]
    let shown := fun (t : Traffic Unit Unit) => (t.state.ledgers ⟨2⟩).shown
    ∃ p t, (({} : Builder Unit Unit).applyAll os).build = .ok p
      ∧ (Traffic.start p ()).run p es = some t ∧ t.Done
      ∧ shown t "gatehouse_requests_total" [("code", "aborted"), ("method", "/S/Watch")] = 1
      ∧ shown t "gatehouse_requests_total" [("code", "internal"), ("method", "/S/Ping")] = 1
      ∧ shown t "gatehouse_request_duration_seconds" [("method", "/S/Watch")] = 1
      ∧ shown t "gatehouse_request_duration_seconds" [("method", "/S/Ping")] = 2
      ∧ shown t "gatehouse_panics_recovered_total" [] = 1
      ∧ t.state.ledgers ⟨1⟩ = {} := by
  intro os watch feed crash ping es shown
  have hp : (({} : Builder Unit Unit).applyAll os).build = .ok ((Choices.of os).pipeline none) := by
    rw [Choices.applyAll_eq, Choices.build_builder]
    rfl
  have hfinal : ((Traffic.start ((Choices.of os).pipeline none) ()).run
      ((Choices.of os).pipeline none) es).map (fun t =>
        (t.streams.all Stream.isDone,
          (t.records ((Choices.of os).pipeline none)).map fun e => (e.method, e.code, e.panicked)))
      = some (true, [("/S/Ping", some .internal, true), ("/S/Ping", none, false),
        ("/S/Watch", some .aborted, false)]) := by
    decide +kernel
  obtain ⟨t, ht, hparts⟩ := Option.map_eq_some_iff.mp hfinal
  obtain ⟨hdone, hrecords⟩ := Prod.mk.inj hparts
  have hcount : ∀ P : String × Option Code × Bool → Bool,
      (t.records ((Choices.of os).pipeline none)).countP (fun e => P (e.method, e.code, e.panicked))
        = [("/S/Ping", some .internal, true), ("/S/Ping", none, false),
          ("/S/Watch", some .aborted, false)].countP P := by
    intro P
    rw [← hrecords, List.countP_map]
    rfl
  have hd : t.Done := Traffic.done_iff.mpr hdone
  obtain ⟨-, hrequests, hdurations, hpanics, hothers, -⟩ := calls_accounted os hp rfl rfl () {} ht hd
  refine ⟨_, t, hp, ht, hd, ?_, ?_, (hdurations "/S/Watch").1, (hdurations "/S/Ping").1, ?_,
    hothers ⟨1⟩ (by decide)⟩
  · exact (hrequests "/S/Watch" .aborted).trans
      (hcount fun e => e.1 = "/S/Watch" ∧ e.2.1 = some .aborted)
  · exact (hrequests "/S/Ping" .internal).trans
      (hcount fun e => e.1 = "/S/Ping" ∧ e.2.1 = some .internal)
  · exact hpanics.trans (hcount fun e => e.2.2)

end

end Turnstile
