import Turnstile.Pipeline

/-!
# Calls

The three ways to call a handler through a pipeline. At the two ends of a lane the messages are typed:
the handler runs only if the request that reaches it still has the type it expects, and the caller gets
a reply only if the reply still has the type it was promised.

* `Pipeline.callUnary`: one request, one reply.
* `Pipeline.callStream`: one request, and the handler owns the stream of replies.
* `Pipeline.callServerStream`: one request; the caller gets what the handler sends, and a failure after
  the handler was started as the last item.
-/

namespace Turnstile

/-- What the handler of a stream has done: what it sent, and how it ended. -/
structure Production where
  items : List (Except Status Payload)
  outcome : Outcome Unit

namespace Pipeline

variable {σ ν : Type}

/-! ## Accounting -/

/-- Records that a call was timed, if there is a collector. -/
def recordTime (p : Pipeline σ ν) (m : Method) (st : State σ ν) : State σ ν :=
  st.count p.metrics (·.time m.fullName)

/-- Records how a call ended, if there is a collector. A panic leaves no code. -/
def recordOutcome {ρ : Type} (p : Pipeline σ ν) (m : Method) (o : Outcome ρ) (st : State σ ν) :
    State σ ν :=
  match o with
  | .returned r => st.count p.metrics (·.finish m.fullName (resultCode r))
  | .panicked _ => st

/-! ## The ends of a lane -/

/-- The handler at the centre of a lane: it runs if the request's message has the type it expects. -/
def centre {α ρ : Type} [Message α] (m : Method)
    (handler : Request α → StateM (State σ ν) (Outcome ρ)) :
    Request Payload → StateM (State σ ν) (Outcome ρ) := fun r st =>
  match Message.ofPayload? r.message with
  | some (a : α) => handler (r.map fun _ => a) st
  | none => (.failed .internal, st.report (.requestTypeChanged m.fullName))

/-- The typed reply at the outer end of the unary lane. -/
def restoreReply {β : Type} [Message β] (m : Method) (o : Outcome (Reply Payload)) :
    StateM (State σ ν) (Outcome (Reply β)) := fun st =>
  match o with
  | .panicked payload => (.panicked payload, st)
  | .returned (.error s) => (.failed s, st)
  | .returned (.ok r) =>
    match Message.ofPayload? r.message with
    | some (b : β) => (.ok (r.map fun _ => b), st)
    | none => (.failed .internal, st.report (.replyTypeChanged m.fullName))

/-! ## Calls -/

/-- Calls a handler that makes one reply. -/
def callUnary {α β : Type} [Message α] [Message β] (p : Pipeline σ ν) (m : Method) (r : Request α)
    (handler : Request α → StateM (Own σ ν) (Outcome (Reply β))) :
    StateM (State σ ν) (Outcome (Reply β)) := fun st =>
  let inner : Request α → StateM (State σ ν) (Outcome (Reply Payload)) := fun r st =>
    let (o, st) := State.perform (handler r) st
    (o.map fun reply => reply.map Message.toPayload, st)
  let (o, st) := Gate.run p.unary m (centre m inner) (r.map Message.toPayload) st
  let (o, st) := restoreReply m o st
  (o, p.recordTime m (p.recordOutcome m o st))

/-- Calls a handler that owns its stream of replies and only tells how the exchange went. -/
def callStream {α : Type} [Message α] (p : Pipeline σ ν) (m : Method) (r : Request α)
    (handler : Request α → StateM (State σ ν) (Outcome Unit)) :
    StateM (State σ ν) (Outcome Unit) := fun st =>
  let (o, st) := Gate.run p.stream m (centre m handler) (r.map Message.toPayload) st
  (o, p.recordTime m (p.recordOutcome m o st))

/-- Starts the handler of a stream and keeps what it sends. -/
def producer {α : Type} (handler : Request α → StateM (Own σ ν) Production) :
    Request α → StateM (State σ ν) (Outcome Unit) := fun r st =>
  let (made, st) := State.perform (handler r) st
  (made.outcome, { st with outbox := some made.items })

/-- What the caller of a stream gets: a status when the handler was never started, and else every item
followed by the status with which the call failed, if it did. A panic ends the stream. -/
def delivered (m : Method) (sent : Option (List (Except Status Payload))) (o : Outcome Unit)
    (st : State σ ν) : Except Status (List (Except Status Payload)) × State σ ν :=
  match sent, o with
  | some items, .returned (.ok _) => (.ok items, st)
  | some items, .returned (.error s) => (.ok (items ++ [.error s]), st)
  | some items, .panicked _ => (.ok items, st)
  | none, .returned (.ok _) => (.ok [], st)
  | none, .returned (.error s) => (.error s, st)
  | none, .panicked _ => (.error .internal, st.report (.streamTaskFailed m.fullName))

/-- Calls a handler that sends a stream of replies to the caller. -/
def callServerStream {α : Type} [Message α] (p : Pipeline σ ν) (m : Method) (r : Request α)
    (handler : Request α → StateM (Own σ ν) Production) :
    StateM (State σ ν) (Except Status (List (Except Status Payload))) := fun st =>
  let (o, st) := p.callStream m r (producer handler) { st with outbox := none }
  let (answer, st) := delivered m st.outbox o st
  (answer, { st with outbox := none })

end Pipeline

end Turnstile
