import Turnstile.Call

/-!
# The ping service

An echo service behind a pipeline. `ping` answers once; `watch` sends numbered replies, as many as asked
for up to a bound. Every reply carries the identifier of its request.
-/

namespace Turnstile

/-- The message of a ping. -/
structure PingRequest where
  message : String
  deriving DecidableEq, Repr

/-- The message of a watch: what to send, and how often. -/
structure WatchRequest where
  message : String
  count : UInt32
  deriving DecidableEq, Repr

/-- A reply of the service. -/
structure PingReply where
  message : String
  requestId : String
  sequence : Nat
  deriving DecidableEq, Repr

instance : Message PingRequest where
  toPayload r := .pingRequest r.message
  ofPayload?
    | .pingRequest m => some ⟨m⟩
    | _ => none
  ofPayload?_toPayload _ := rfl

instance : Message WatchRequest where
  toPayload r := .watchRequest r.message r.count
  ofPayload?
    | .watchRequest m n => some ⟨m, n⟩
    | _ => none
  ofPayload?_toPayload _ := rfl

instance : Message PingReply where
  toPayload r := .pingReply r.message r.requestId r.sequence
  ofPayload?
    | .pingReply m id n => some ⟨m, id, n⟩
    | _ => none
  ofPayload?_toPayload _ := rfl

namespace Ping

/-- The method that answers once. -/
def pingMethod : Method := .unary "/gatehouse.Ping/Ping"

/-- The method that sends a stream. -/
def watchMethod : Method := .stream "/gatehouse.Ping/Watch"

/-- The most replies that one watch sends. -/
def maxReplies : Nat := 1000

/-- The identifier of a request, or nothing. -/
def taggedId {α : Type} (r : Request α) : String :=
  (r.context.requestId.map RequestId.text).getD ""

variable {σ ν : Type}

/-- The handler of a ping. -/
def pingHandler (r : Request PingRequest) : StateM (Own σ ν) (Outcome (Reply PingReply)) :=
  pure (.ok { message := ⟨r.message.message, taggedId r, 0⟩ })

/-- The handler of a watch. -/
def watchHandler (r : Request WatchRequest) : StateM (Own σ ν) Production :=
  pure
    { items := (List.range (min r.message.count.toNat maxReplies)).map fun n =>
        .ok (.pingReply r.message.message (taggedId r) n)
      outcome := .ok () }

/-- Answers a ping. -/
def ping (p : Pipeline σ ν) (r : Request PingRequest) :
    StateM (Pipeline.State σ ν) (Outcome (Reply PingReply)) := p.callUnary pingMethod r pingHandler

/-- Answers a watch. -/
def watch (p : Pipeline σ ν) (r : Request WatchRequest) :
    StateM (Pipeline.State σ ν) (Except Status (List (Except Status Payload))) :=
  p.callServerStream watchMethod r watchHandler

end Ping

end Turnstile
