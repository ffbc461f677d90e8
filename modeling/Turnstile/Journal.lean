import Turnstile.Admission
import Turnstile.Method
import Turnstile.RateGate

/-!
# The journal

What a running pipeline says about itself, in the order in which it is said, mixed with the notes of
the user's own code.

* `TraceEvent`: a report of the pipeline, with `TraceEvent.fields`.
* `JournalEntry`: a report or a note, over the notes `ν`.
-/

namespace Turnstile

/-- What a pipeline reports about itself. -/
inductive TraceEvent where
  | composed (registered unary streaming : Nat)
  | bucketOpened (group : String) (limiter : Limiter)
  | rateRejected (method : String) (group : Option String)
  | addressRejected (method : String) (peer : Option Endpoint)
  | authenticationFailed (method error : String)
  | panicRecovered (method : String) (requestId : RequestId) (panic : Option String)
  | requestTypeChanged (method : String)
  | replyTypeChanged (method : String)
  | streamTaskFailed (method : String)
  | callSpan (method : Method) (requestId : Option RequestId)

/-- The value of a field of a report. -/
inductive FieldValue where
  | text (s : String)
  | count (n : Nat)
  | flag (b : Bool)
  | number (x : Float)
  /-- The text of a request identifier. -/
  | identifier (s : String)

/-- The text of an optional endpoint. -/
def describePeer : Option Endpoint → String
  | none => "None"
  | some e => "Some(" ++ e.text ++ ")"

/-- The fields of a report at some level with a message. -/
def reported (level message : String) (fields : List (String × FieldValue)) :
    List (String × FieldValue) :=
  [("level", .text level), ("message", .text message)] ++ fields

/-- The fields of a report. A call's span is no message; it is named by its field `span`. -/
def TraceEvent.fields : TraceEvent → List (String × FieldValue)
  | .composed registered unary streaming =>
    reported "INFO" "Composed request pipeline"
      [("registered", .count registered), ("unary", .count unary), ("streaming", .count streaming)]
  | .bucketOpened group l =>
    reported "DEBUG" "Created group rate limiter"
      [("group", .text group), ("requests_per_second", .number l.requestsPerSecond),
        ("burst", .count l.burst)]
  | .rateRejected method group =>
    reported "DEBUG" "Request rejected by rate limit"
      (("method", .text method) :: (group.map fun g => ("group", FieldValue.text g)).toList)
  | .addressRejected method peer =>
    reported "DEBUG" "Request rejected by IP admission"
      [("method", .text method), ("peer", .text (describePeer peer))]
  | .authenticationFailed method error =>
    reported "DEBUG" "Authentication failed" [("method", .text method), ("error", .text error)]
  | .panicRecovered method id panic =>
    reported "ERROR" "Recovered from panic in request pipeline"
      [("method", .text method), ("request_id", .identifier id.text),
        ("panic", .text (panic.getD "non-string panic payload"))]
  | .requestTypeChanged method =>
    reported "ERROR" "Request payload type changed inside the pipeline" [("method", .text method)]
  | .replyTypeChanged method =>
    reported "ERROR" "Response payload type changed inside the pipeline" [("method", .text method)]
  | .streamTaskFailed method =>
    reported "ERROR" "Streaming pipeline task failed" [("method", .text method)]
  | .callSpan method id =>
    [("span", .text "rpc"), ("method", .text method.fullName), ("streaming", .flag method.streaming),
      ("request_id", .identifier ((id.map RequestId.text).getD "-"))]

/-- An entry of the journal: a report of the pipeline or a note of the user's code. -/
inductive JournalEntry (ν : Type) where
  | trace (e : TraceEvent)
  | note (n : ν)

end Turnstile
