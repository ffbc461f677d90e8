import Turnstile.Metadata

/-!
# Statuses

The outcome codes of calls, and the four statuses that the gates answer with. A status of the user's may
carry details and metadata; those of the gates are a code and a text.
-/

namespace Turnstile

/-- The outcome codes. -/
inductive Code where
  | ok
  | cancelled
  | unknown
  | invalidArgument
  | deadlineExceeded
  | notFound
  | alreadyExists
  | permissionDenied
  | resourceExhausted
  | failedPrecondition
  | aborted
  | outOfRange
  | unimplemented
  | internal
  | unavailable
  | dataLoss
  | unauthenticated
  deriving DecidableEq, Repr

namespace Code

/-- All codes, each at the place of its number. -/
def all : List Code :=
  [ok, cancelled, unknown, invalidArgument, deadlineExceeded, notFound, alreadyExists,
    permissionDenied, resourceExhausted, failedPrecondition, aborted, outOfRange, unimplemented,
    internal, unavailable, dataLoss, unauthenticated]

/-- The code with a number; a number that no code has stands for an unknown outcome. -/
def ofNumber (n : Int) : Code := if n < 0 then unknown else all.getD n.toNat unknown

/-- The name of a code, in capitals where words begin. -/
def name : Code → String
  | ok => "Ok"
  | cancelled => "Cancelled"
  | unknown => "Unknown"
  | invalidArgument => "InvalidArgument"
  | deadlineExceeded => "DeadlineExceeded"
  | notFound => "NotFound"
  | alreadyExists => "AlreadyExists"
  | permissionDenied => "PermissionDenied"
  | resourceExhausted => "ResourceExhausted"
  | failedPrecondition => "FailedPrecondition"
  | aborted => "Aborted"
  | outOfRange => "OutOfRange"
  | unimplemented => "Unimplemented"
  | internal => "Internal"
  | unavailable => "Unavailable"
  | dataLoss => "DataLoss"
  | unauthenticated => "Unauthenticated"

/-- The label of a code in counters, with underscores between words. -/
def label : Code → String
  | ok => "ok"
  | cancelled => "cancelled"
  | unknown => "unknown"
  | invalidArgument => "invalid_argument"
  | deadlineExceeded => "deadline_exceeded"
  | notFound => "not_found"
  | alreadyExists => "already_exists"
  | permissionDenied => "permission_denied"
  | resourceExhausted => "resource_exhausted"
  | failedPrecondition => "failed_precondition"
  | aborted => "aborted"
  | outOfRange => "out_of_range"
  | unimplemented => "unimplemented"
  | internal => "internal"
  | unavailable => "unavailable"
  | dataLoss => "data_loss"
  | unauthenticated => "unauthenticated"

end Code

/-- What a status says besides its code: a text, and details and metadata for callers that look at
them. -/
structure Explanation where
  text : String
  details : List UInt8 := []
  metadata : Metadata := {}
  deriving DecidableEq, Repr

/-- A text that stands alone comes without details and metadata. -/
instance : Coe String Explanation := ⟨fun text => { text }⟩

instance : Coe Explanation String := ⟨Explanation.text⟩

/-- What a call ends with when it fails. -/
structure Status where
  code : Code
  message : Explanation
  deriving DecidableEq, Repr

namespace Status

/-- The answer to a caller whose address is not admitted. -/
def blocked : Status := ⟨.permissionDenied, "blocked"⟩

/-- The answer to a call for which no token is left. -/
def rateLimited : Status := ⟨.resourceExhausted, "rate limit exceeded"⟩

/-- The answer to a caller who could not be authenticated, unless the authenticator chose another. -/
def unauthenticated : Status := ⟨.unauthenticated, "unauthenticated"⟩

/-- The answer when the pipeline itself failed. -/
def internal : Status := ⟨.internal, "internal server error"⟩

end Status

end Turnstile
