import Turnstile.Address
import Turnstile.Metadata
import Turnstile.Status

/-!
# Requests, replies and their context

A request carries its headers, the address it came from, a message whose type is known only at the two
ends of a pipeline, and the context that stages fill in on the way: a request identifier, the group of
its method, the actor behind it, and whatever else they pass on.

* `Payload`: a message on its way through a pipeline; `Message`: the types that messages can have.
* `Context`: what stages have found out about a request.
* `Outcome`: how a call can end.
-/

namespace Turnstile

/-! ## Context -/

/-- A message on its way through a pipeline. -/
inductive Payload where
  | text (s : String)
  | number (n : UInt64)
  | pingRequest (message : String)
  | watchRequest (message : String) (count : UInt32)
  | pingReply (message requestId : String) (sequence : Nat)
  deriving DecidableEq, Repr

/-- The identifier that ties together all that happens to one request. -/
structure RequestId where
  text : String
  deriving DecidableEq, Repr

/-- The header by which callers pass on a request identifier. -/
def RequestId.header : String := "x-request-id"

/-- The hexadecimal digits of a number, padded with zeros to `width` places. -/
def hexPadded (width n : Nat) : List Char :=
  let ds := Nat.toDigits 16 n
  List.replicate (width - ds.length) '0' ++ ds

/-- The identifier minted as number `n`: thirty-two digits, the thirteenth of which gives the version
and the seventeenth the variant of the identifier. -/
def RequestId.minted (n : Nat) : RequestId :=
  ⟨String.ofList (hexPadded 12 (n / Nat.pow 16 18 % Nat.pow 16 12)
    ++ '4' :: hexPadded 3 (n / Nat.pow 16 15 % Nat.pow 16 3)
    ++ '8' :: hexPadded 15 (n % Nat.pow 16 15))⟩

/-- A supply of request identifiers, and how many have been minted of it. -/
structure Mint where
  supply : Nat → RequestId := RequestId.minted
  count : Nat := 0

/-- Mints the next identifier. -/
def Mint.next (mint : Mint) : RequestId × Mint :=
  (mint.supply mint.count, { mint with count := mint.count + 1 })

/-- Up to the next identifier, the supply holds none twice. -/
def Mint.Distinct (mint : Mint) : Prop :=
  ∀ n ≤ mint.count, ∀ n' ≤ mint.count, mint.supply n = mint.supply n' → n = n'

/-- The authenticated caller. -/
structure Actor where
  subject : String := ""
  tenant : String := ""
  clientId : String := ""
  scopes : List String := []
  deriving DecidableEq, Repr

/-- Whether an actor has been given a scope. -/
def Actor.hasScope (a : Actor) (scope : String) : Bool := a.scopes.contains scope

/-- What stages have found out about a request. What they pass on besides is kept by name. -/
structure Context where
  requestId : Option RequestId := none
  group : Option String := none
  actor : Option Actor := none
  others : List (String × Payload) := []
  deriving DecidableEq, Repr

/-! ## Messages -/

/-- A type of messages: each is put into a payload and got back from it. -/
class Message (α : Type) where
  toPayload : α → Payload
  ofPayload? : Payload → Option α
  ofPayload?_toPayload : ∀ a : α, ofPayload? (toPayload a) = some a

instance : Message String where
  toPayload := .text
  ofPayload?
    | .text s => some s
    | _ => none
  ofPayload?_toPayload _ := rfl

instance : Message UInt64 where
  toPayload := .number
  ofPayload?
    | .number n => some n
    | _ => none
  ofPayload?_toPayload _ := rfl

/-- A request with a message of type `α`. -/
structure Request (α : Type) where
  metadata : Metadata := {}
  peer : Option Endpoint := none
  context : Context := {}
  message : α

/-- The request with its message changed. -/
def Request.map {α β : Type} (f : α → β) (r : Request α) : Request β :=
  ⟨r.metadata, r.peer, r.context, f r.message⟩

/-- The request with its context changed. -/
def Request.updateContext {α : Type} (f : Context → Context) (r : Request α) : Request α :=
  { r with context := f r.context }

/-- A reply with a message of type `α`. -/
structure Reply (α : Type) where
  metadata : Metadata := {}
  context : Context := {}
  message : α

/-- The reply with its message changed. -/
def Reply.map {α β : Type} (f : α → β) (r : Reply α) : Reply β := ⟨r.metadata, r.context, f r.message⟩

/-! ## Outcomes -/

/-- How a stage, a handler or a whole call ends: it returns a result or a status, or it panics. Of the
payload of a panic there is to know the text that can be read of it, if any; to dispose of it does
nothing. -/
inductive Outcome (ρ : Type) where
  | returned (result : Except Status ρ)
  | panicked (payload : Option String)

namespace Outcome

/-- A good result. -/
def ok {ρ : Type} (r : ρ) : Outcome ρ := .returned (.ok r)

/-- A failure with a status. -/
def failed {ρ : Type} (s : Status) : Outcome ρ := .returned (.error s)

/-- The outcome with a good result changed. -/
def map {α β : Type} (f : α → β) : Outcome α → Outcome β
  | .returned r => .returned (r.map f)
  | .panicked p => .panicked p

end Outcome

/-- The code that a returned result is counted under. -/
def resultCode {ρ : Type} : Except Status ρ → Code
  | .ok _ => .ok
  | .error s => s.code

end Turnstile
