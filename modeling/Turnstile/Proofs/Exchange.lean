import Turnstile.Proofs.Frame

/-!
# The exchange behind a stream

The caller of a stream and the task that runs its lane go on at the same time. Between them are a
channel with room for a few items and a signal that tells the caller whether the handler was started. An
exchange goes on in small steps of either side, in any order.

* `Sending`: a handler that sends items one by one and learns whether each was taken.
* `Exchange`: both sides and what is between them; `Exchange.act`, one step of either.
* `Exchange.resolve`, `Exchange.forthcoming`: how the task will end, and what it has still to send, if
  the caller listens.
* `Exchange.Stepped`: all that a step can do.
* `Exchange.arrive_settles`: the way in changes neither how the task will end nor what it will send.
-/

namespace Turnstile

/-! ## Handlers that send -/

/-- What the handler of a stream does once it runs. After each item it goes on by whether the item was
taken, as it is not once the caller has dropped the stream. -/
inductive Sending where
  | send (item : Except Status Payload) (next : Bool → Sending)
  | finish (outcome : Outcome Unit)

namespace Sending

/-- What a handler sends, and how it ends, if everything is taken. -/
def production : Sending → Production
  | .send item next =>
    let made := (next true).production
    { made with items := item :: made.items }
  | .finish outcome => ⟨[], outcome⟩

/-- The handler that sends some items, taken or not, and ends. -/
def ofProduction (made : Production) : Sending :=
  made.items.foldr (fun item rest => .send item fun _ => rest) (.finish made.outcome)

/-- Every production is that of a handler which sends one by one. -/
theorem production_ofProduction (made : Production) : (ofProduction made).production = made := by
  obtain ⟨items, outcome⟩ := made
  unfold ofProduction
  induction items with
  | nil => rfl
  | cons item items ih =>
    simp only [List.foldr_cons, production] at ih ⊢
    rw [ih]

/-- A bound on the steps of a handler and on the reads of its items. -/
def weight : Sending → Nat
  | .send _ next => max (next true).weight (next false).weight + 2
  | .finish _ => 3

end Sending

/-! ## Exchanges -/

/-- The signal by which a task tells its caller that the handler was started, or will not be. -/
inductive Signal where
  | pending
  | started
  | dropped
  deriving DecidableEq

/-- The task that runs a lane: on its way in, with the handler, and on its way to report a failure. -/
inductive LaneTask (σ ν : Type) where
  | arriving
  | sending (handler : Sending) (leave : Outcome Unit → StateM (Pipeline.State σ ν) (Outcome Unit))
  | reporting (outcome : Outcome Unit)
  | finished (outcome : Outcome Unit)

/-- The caller of a stream: before it knows whether the handler was started, with the stream in hand,
and after the end. -/
inductive Reader where
  | waiting
  | joining
  | reading
  | ended
  | refused (s : Status)
  | gone
  deriving DecidableEq

/-- Whether the receiving end of the channel is there. -/
def Reader.listens : Reader → Bool
  | .refused _ => false
  | .gone => false
  | _ => true

/-- A stream between its caller and the task that runs its lane. -/
structure Exchange (σ ν : Type) where
  task : LaneTask σ ν := .arriving
  signal : Signal := .pending
  queue : List (Except Status Payload) := []
  reader : Reader := .waiting
  received : List (Except Status Payload) := []
  state : Pipeline.State σ ν

/-- A step of an exchange: the task works, the caller learns how the call went, reads an item, sees the
end, or drops the stream. -/
inductive ExchangeStep where
  | work
  | learn
  | read
  | close
  | drop
  deriving DecidableEq

/-- The status that is sent after the items, if an outcome has one. -/
def Outcome.closing : Outcome Unit → List (Except Status Payload)
  | .returned (.error s) => [.error s]
  | _ => []

namespace Exchange

variable {σ ν α : Type}

/-- The room in the channel. -/
def room : Nat := 16

/-- Sends an item. Without a caller it is not taken; in a full channel it has to wait. -/
def push (x : Exchange σ ν) (item : Except Status Payload) : Option (Bool × Exchange σ ν) :=
  if x.reader.listens then
    if x.queue.length < room then some (true, { x with queue := x.queue ++ [item] }) else none
  else some (false, x)

/-- The streaming lane of a pipeline as one layer. -/
def lane (p : Pipeline σ ν) (m : Method) : Gate.LaneLayer σ ν Unit :=
  Layer.fuse (p.stream.map (Gate.layer m))

/-- The accounts of a call of a stream, once its lane has ended. -/
def account (p : Pipeline σ ν) (m : Method) (ended : Outcome Unit × Pipeline.State σ ν) :
    Outcome Unit × Pipeline.State σ ν :=
  (ended.1, p.recordTime m (p.recordOutcome m ended.1 ended.2))

/-- The lane has ended: what is left are the accounts and the report. -/
def conclude (p : Pipeline σ ν) (m : Method) (x : Exchange σ ν)
    (ended : Outcome Unit × Pipeline.State σ ν) : Exchange σ ν :=
  { x with
    task := .reporting (account p m ended).1
    state := (account p m ended).2 }

/-- The way in: some layer answers, or the handler is started, unless the request has changed its
type. -/
def arrive [Message α] (p : Pipeline σ ν) (m : Method) (r : Request α)
    (handler : Request α → StateM (Own σ ν) Sending) (x : Exchange σ ν) : Exchange σ ν :=
  match (lane p m).enter (r.map Message.toPayload) x.state with
  | (.answered outcome, st) => conclude p m { x with signal := .dropped } (outcome, st)
  | (.passed r leave, st) =>
    match Message.ofPayload? r.message with
    | some (a : α) =>
      let (sending, st) := Pipeline.State.perform (handler (r.map fun _ => a)) st
      { x with
        signal := .started
        task := .sending sending leave
        state := { st with outbox := some [] } }
    | none =>
      conclude p m { x with signal := .dropped }
        (leave (.failed .internal) (st.report (.requestTypeChanged m.fullName)))

/-- A step of the task. -/
def work [Message α] (p : Pipeline σ ν) (m : Method) (r : Request α)
    (handler : Request α → StateM (Own σ ν) Sending) (x : Exchange σ ν) : Option (Exchange σ ν) :=
  match x.task with
  | .arriving => some (x.arrive p m r handler)
  | .sending (.send item next) leave =>
    (x.push item).map fun (taken, x) =>
      { x with
        task := .sending (next taken) leave
        state := if taken then { x.state with outbox := x.state.outbox.map (· ++ [item]) }
          else x.state }
  | .sending (.finish outcome) leave => some (conclude p m x (leave outcome x.state))
  | .reporting (.returned (.error s)) =>
    (x.push (.error s)).map fun (_, x) => { x with task := .finished (.failed s) }
  | .reporting outcome => some { x with task := .finished outcome }
  | .finished _ => none

/-- What the caller does when the task has ended without starting the handler. -/
def join (m : Method) (x : Exchange σ ν) : Outcome Unit → Exchange σ ν
  | .returned (.ok _) => { x with reader := .reading }
  | .returned (.error s) => { x with reader := .refused s, queue := [] }
  | .panicked _ =>
    { x with
      reader := .refused .internal
      queue := []
      state := x.state.report (.streamTaskFailed m.fullName) }

/-- One step of either side, if it can be taken. -/
def act [Message α] (p : Pipeline σ ν) (m : Method) (r : Request α)
    (handler : Request α → StateM (Own σ ν) Sending) (x : Exchange σ ν) :
    ExchangeStep → Option (Exchange σ ν)
  | .work => x.work p m r handler
  | .learn =>
    match x.reader, x.signal, x.task with
    | .waiting, .started, _ => some { x with reader := .reading }
    | .waiting, .dropped, _ => some { x with reader := .joining }
    | .joining, _, .finished outcome => some (x.join m outcome)
    | _, _, _ => none
  | .read =>
    match x.reader, x.queue with
    | .reading, item :: rest => some { x with queue := rest, received := x.received ++ [item] }
    | _, _ => none
  | .close =>
    match x.reader, x.queue, x.task with
    | .reading, [], .finished _ => some { x with reader := .ended }
    | _, _, _ => none
  | .drop =>
    match x.reader with
    | .waiting | .joining | .reading => some { x with reader := .gone, queue := [] }
    | _ => none

/-- Some steps of either side in their order, if each can be taken. -/
def run [Message α] (p : Pipeline σ ν) (m : Method) (r : Request α)
    (handler : Request α → StateM (Own σ ν) Sending) (x : Exchange σ ν) :
    List ExchangeStep → Option (Exchange σ ν)
  | [] => some x
  | a :: as => (x.act p m r handler a).bind fun x => x.run p m r handler as

/-- The exchange of a call that is about to be made. -/
def start (st : Pipeline.State σ ν) : Exchange σ ν := { state := { st with outbox := none } }

/-! ## What a step does -/

variable [Message α] {p : Pipeline σ ν} {m : Method} {r : Request α}
  {handler : Request α → StateM (Own σ ν) Sending}

/-- All that a step can do. -/
inductive Stepped (p : Pipeline σ ν) (m : Method) (r : Request α)
    (handler : Request α → StateM (Own σ ν) Sending) (x : Exchange σ ν) :
    ExchangeStep → Exchange σ ν → Prop
  | arrive (ht : x.task = .arriving) : Stepped p m r handler x .work (x.arrive p m r handler)
  | taken {item next leave} (ht : x.task = .sending (.send item next) leave)
      (hl : x.reader.listens = true) (hq : x.queue.length < room) :
      Stepped p m r handler x .work
        { x with
          queue := x.queue ++ [item]
          task := .sending (next true) leave
          state := { x.state with outbox := x.state.outbox.map (· ++ [item]) } }
  | lost {item next leave} (ht : x.task = .sending (.send item next) leave)
      (hl : x.reader.listens = false) :
      Stepped p m r handler x .work { x with task := .sending (next false) leave }
  | finish {outcome leave} (ht : x.task = .sending (.finish outcome) leave) :
      Stepped p m r handler x .work (conclude p m x (leave outcome x.state))
  | report {s} (ht : x.task = .reporting (.returned (.error s))) (hl : x.reader.listens = true)
      (hq : x.queue.length < room) :
      Stepped p m r handler x .work
        { x with queue := x.queue ++ [.error s], task := .finished (.failed s) }
  | unheard {s} (ht : x.task = .reporting (.returned (.error s))) (hl : x.reader.listens = false) :
      Stepped p m r handler x .work { x with task := .finished (.failed s) }
  | done {outcome} (ht : x.task = .reporting outcome) (hc : outcome.closing = []) :
      Stepped p m r handler x .work { x with task := .finished outcome }
  | hear (hr : x.reader = .waiting) (hs : x.signal = .started) :
      Stepped p m r handler x .learn { x with reader := .reading }
  | miss (hr : x.reader = .waiting) (hs : x.signal = .dropped) :
      Stepped p m r handler x .learn { x with reader := .joining }
  | join {outcome} (hr : x.reader = .joining) (ht : x.task = .finished outcome) :
      Stepped p m r handler x .learn (x.join m outcome)
  | read {item rest} (hr : x.reader = .reading) (hq : x.queue = item :: rest) :
      Stepped p m r handler x .read { x with queue := rest, received := x.received ++ [item] }
  | close {outcome} (hr : x.reader = .reading) (hq : x.queue = [])
      (ht : x.task = .finished outcome) :
      Stepped p m r handler x .close { x with reader := .ended }
  | drop (hr : x.reader = .waiting ∨ x.reader = .joining ∨ x.reader = .reading) :
      Stepped p m r handler x .drop { x with reader := .gone, queue := [] }

/-- What is sent is lost, or finds room in the channel. -/
theorem push_eq_some {x : Exchange σ ν} {item : Except Status Payload} {made : Bool × Exchange σ ν}
    (h : x.push item = some made) :
    (x.reader.listens = false ∧ made = (false, x))
      ∨ (x.reader.listens = true ∧ x.queue.length < room
        ∧ made = (true, { x with queue := x.queue ++ [item] })) := by
  unfold push at h
  split at h
  · split at h
    · exact .inr ⟨‹_›, ‹_›, (Option.some.inj h).symm⟩
    · cases h
  · rename_i hl
    exact .inl ⟨by simpa using hl, (Option.some.inj h).symm⟩

/-- A send has to wait only at a full channel to which a caller listens. -/
theorem push_eq_none {x : Exchange σ ν} {item : Except Status Payload} (h : x.push item = none) :
    x.reader.listens = true ∧ room ≤ x.queue.length := by
  unfold push at h
  split at h
  · split at h
    · cases h
    · exact ⟨‹_›, Nat.le_of_not_lt ‹_›⟩
  · cases h

theorem work_stepped {x x' : Exchange σ ν} (h : x.work p m r handler = some x') :
    Stepped p m r handler x .work x' := by
  unfold work at h
  cases ht : x.task with
  | arriving =>
    rw [ht] at h
    obtain rfl := Option.some.inj h
    exact .arrive ht
  | sending s leave =>
    cases s with
    | finish outcome =>
      rw [ht] at h
      obtain rfl := Option.some.inj h
      exact .finish ht
    | send item next =>
      rw [ht] at h
      obtain ⟨made, hmade, rfl⟩ := Option.map_eq_some_iff.mp h
      rcases push_eq_some hmade with ⟨hl, rfl⟩ | ⟨hl, hq, rfl⟩
      · exact .lost ht hl
      · exact .taken ht hl hq
  | reporting outcome =>
    cases outcome with
    | panicked payload =>
      rw [ht] at h
      obtain rfl := Option.some.inj h
      exact .done ht rfl
    | returned result =>
      cases result with
      | ok _ =>
        rw [ht] at h
        obtain rfl := Option.some.inj h
        exact .done ht rfl
      | error s =>
        rw [ht] at h
        obtain ⟨made, hmade, rfl⟩ := Option.map_eq_some_iff.mp h
        rcases push_eq_some hmade with ⟨hl, rfl⟩ | ⟨hl, hq, rfl⟩
        · exact .unheard ht hl
        · exact .report ht hl hq
  | finished outcome =>
    rw [ht] at h
    cases h

/-- A step that can be taken does one of these things. -/
theorem act_stepped {x x' : Exchange σ ν} {a : ExchangeStep}
    (h : x.act p m r handler a = some x') : Stepped p m r handler x a x' := by
  cases a with
  | work => exact work_stepped h
  | learn =>
    simp only [act] at h
    split at h
    · obtain rfl := Option.some.inj h
      exact .hear ‹_› ‹_›
    · obtain rfl := Option.some.inj h
      exact .miss ‹_› ‹_›
    · obtain rfl := Option.some.inj h
      exact .join ‹_› ‹_›
    · cases h
  | read =>
    simp only [act] at h
    split at h
    · obtain rfl := Option.some.inj h
      exact .read ‹_› ‹_›
    · cases h
  | close =>
    simp only [act] at h
    split at h
    · obtain rfl := Option.some.inj h
      exact .close ‹_› ‹_› ‹_›
    · cases h
  | drop =>
    simp only [act] at h
    split at h
    · obtain rfl := Option.some.inj h
      exact .drop (.inl ‹_›)
    · obtain rfl := Option.some.inj h
      exact .drop (.inr (.inl ‹_›))
    · obtain rfl := Option.some.inj h
      exact .drop (.inr (.inr ‹_›))
    · cases h

/-! ## What is to come -/

/-- A handler that sends one by one, as calls see it. -/
def produced (handler : Request α → StateM (Own σ ν) Sending) :
    Request α → StateM (Own σ ν) Production := fun r => Sending.production <$> handler r

/-- How the task will end, and in which state, if everything that it sends is taken. -/
def resolve (p : Pipeline σ ν) (m : Method) (r : Request α)
    (handler : Request α → StateM (Own σ ν) Sending) (x : Exchange σ ν) :
    Outcome Unit × Pipeline.State σ ν :=
  match x.task with
  | .arriving => p.callStream m r (Pipeline.producer (produced handler)) x.state
  | .sending s leave =>
    account p m (leave s.production.outcome
      { x.state with outbox := x.state.outbox.map (· ++ s.production.items) })
  | .reporting outcome => (outcome, x.state)
  | .finished outcome => (outcome, x.state)

/-- All that a call sends: the items of its handler, and a status if it fails. -/
def flow (called : Outcome Unit × Pipeline.State σ ν) : List (Except Status Payload) :=
  called.2.outbox.getD [] ++ called.1.closing

/-- What the task will still send, if everything is taken. -/
def forthcoming (p : Pipeline σ ν) (m : Method) (r : Request α)
    (handler : Request α → StateM (Own σ ν) Sending) (x : Exchange σ ν) :
    List (Except Status Payload) :=
  match x.task with
  | .arriving => flow (x.resolve p m r handler)
  | .sending s _ => s.production.items ++ (x.resolve p m r handler).1.closing
  | .reporting outcome => outcome.closing
  | .finished _ => []

theorem lane_outbox (p : Pipeline σ ν) (m : Method) :
    (lane p m).Steadfast Gate.SameOutbox := by
  refine Layer.fuse_steadfast Gate.SameOutbox.kept.refl Gate.SameOutbox.kept.trans ?_
  intro l hl
  obtain ⟨gate, -, rfl⟩ := List.mem_map.mp hl
  exact Gate.layer_outbox gate m

theorem account_outbox (p : Pipeline σ ν) (m : Method) (ended : Outcome Unit × Pipeline.State σ ν) :
    (account p m ended).2.outbox = ended.2.outbox := by
  obtain ⟨outcome, st⟩ := ended
  unfold account Pipeline.recordTime Pipeline.recordOutcome
  cases outcome <;> cases p.metrics <;> rfl

/-- A call of a stream is its lane as one layer, and the accounts. -/
theorem callStream_eq_account (p : Pipeline σ ν) (m : Method) (r : Request α)
    (h : Request α → StateM (Pipeline.State σ ν) (Outcome Unit)) (st : Pipeline.State σ ν) :
    p.callStream m r h st
      = account p m ((lane p m).around (Pipeline.centre m h) (r.map Message.toPayload) st) := by
  rw [Pipeline.callStream_eq]
  unfold Gate.run
  rw [Layer.chain_eq_around]
  rfl

variable (p m r handler) in
/-- The way in settles how the task will end, what it will send, and whether the handler is started. -/
theorem arrive_settles {x : Exchange σ ν} (hout : x.state.outbox = none) :
    let called := p.callStream m r (Pipeline.producer (produced handler)) x.state
    let x' := x.arrive p m r handler
    x'.resolve p m r handler = called
      ∧ x'.forthcoming p m r handler = flow called
      ∧ ((x'.signal = .started
          ∧ ∃ r' own, called.2.outbox = some (handler r' own).1.production.items)
        ∨ (x'.signal = .dropped ∧ called.2.outbox = none)) := by
  intro called x'
  have hcalled : called = account p m ((lane p m).around
      (Pipeline.centre m (Pipeline.producer (produced handler))) (r.map Message.toPayload) x.state) :=
    callStream_eq_account ..
  have hlane := lane_outbox p m
  have hin := hlane.enter (r.map Message.toPayload) x.state
  simp only [Layer.around] at hcalled
  simp only [x', arrive]
  cases he : (lane p m).enter (r.map Message.toPayload) x.state with
  | mk entered st =>
    rw [he] at hcalled hin
    have hst : st.outbox = none := Eq.trans hin hout
    cases entered with
    | answered outcome =>
      have hnone : called.2.outbox = none := by
        rw [hcalled, account_outbox]
        exact hst
      refine ⟨hcalled.symm, ?_, .inr ⟨rfl, hnone⟩⟩
      rw [flow, hnone, hcalled]
      rfl
    | passed q leave =>
      have hback := fun outcome => hlane.leave he outcome
      dsimp only at hcalled ⊢
      cases ha : (Message.ofPayload? q.message : Option α) with
      | none =>
        simp only [Pipeline.centre, ha] at hcalled
        have hnone : called.2.outbox = none := by
          rw [hcalled, account_outbox]
          exact Eq.trans (hback _ _) hst
        refine ⟨hcalled.symm, ?_, .inr ⟨rfl, hnone⟩⟩
        rw [flow, hnone, hcalled]
        rfl
      | some a =>
        -- the handler is started, and sends into an outbox that is empty
        simp only [Pipeline.centre, ha, Pipeline.producer] at hcalled
        have hsome : called.2.outbox = some ((Pipeline.State.perform
            (handler (q.map fun _ => a)) st).1.production.items) := by
          rw [hcalled, account_outbox]
          exact hback _ _
        have hresolve : called = account p m (leave (Pipeline.State.perform
              (handler (q.map fun _ => a)) st).1.production.outcome
            { (Pipeline.State.perform (handler (q.map fun _ => a)) st).2 with
              outbox := some (Pipeline.State.perform
                (handler (q.map fun _ => a)) st).1.production.items }) := hcalled
        refine ⟨hresolve.symm, ?_, .inl ⟨rfl, _, _, hsome⟩⟩
        rw [flow, hsome, hresolve]
        rfl

end Exchange

end Turnstile
