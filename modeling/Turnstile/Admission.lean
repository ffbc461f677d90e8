import Turnstile.Network
import Turnstile.Request

/-!
# Admission by address

The address of a client is that of its connection, which cannot be forged, unless the connection comes
from a trusted proxy; then the first usable forwarding header tells it. Admission is decided by a list
of networks, read either as the only ones to admit or as the ones to reject. A client without an
address is never admitted.

* `ClientAddress.resolve?`: the address of a client.
* `Admission.of`: reads a configuration; `Admission.evaluate`: decides about a request.
-/

namespace Turnstile

/-! ## Client addresses -/

/-- Which proxies are trusted, and which headers of theirs tell the client's address, in order. -/
structure ClientAddress where
  trustedProxies : List Network
  headers : List String

namespace ClientAddress

/-- The headers that are asked when none are given. -/
def defaultHeaders : List String := ["x-real-ip", "x-forwarded-for"]

/-- Trusted proxies and the headers to ask, in any case. -/
def of (trustedProxies : List Network) (headers : List String) : ClientAddress :=
  ⟨trustedProxies, if headers.isEmpty then defaultHeaders else headers.map Text.lowerAscii⟩

/-- The address in the value of a forwarding header: what comes before the first comma. -/
def ofForwarded? (value : String) : Option Address :=
  (Address.read? (Text.trim (String.ofList (value.toList.takeWhile (· ≠ ','))))).map
    Address.canonical

/-- The address that the first usable header tells. -/
def fromHeaders? (c : ClientAddress) (m : Metadata) : Option Address :=
  c.headers.findSome? fun name => (m.text? name).bind ofForwarded?

/-- Whether a connection comes from a trusted proxy. -/
def trusts (c : ClientAddress) (peer : Address) : Bool := Network.anyContains c.trustedProxies peer

/-- The address of a client, given where its connection comes from and its headers. -/
def resolve? (c : ClientAddress) (peer : Option Endpoint) (m : Metadata) : Option Address :=
  match peer with
  | none => none
  | some e =>
    let peer := e.address.canonical
    if c.trusts peer then some ((c.fromHeaders? m).getD peer) else some peer

end ClientAddress

/-! ## Admission -/

/-- How the list of networks is read. -/
inductive AdmissionMode where
  | allowList
  | denyList
  deriving DecidableEq, Repr

/-- The configuration of admission, not yet read. -/
structure AdmissionConfig where
  mode : AdmissionMode
  cidrs : List String := []
  trustedProxies : List String := []
  headerPriority : List String := []
  deriving DecidableEq, Repr

/-- Why a configuration of admission is no good: the first bad entry and what is wrong with it. -/
inductive AdmissionError where
  | cidr (value : String) (reason : NetworkError)
  | trustedProxy (value : String) (reason : NetworkError)
  deriving DecidableEq, Repr

/-- Decides which clients are admitted. -/
structure Admission where
  mode : AdmissionMode
  cidrs : List Network
  client : ClientAddress

namespace Admission

/-- Reads a configuration. -/
def of (c : AdmissionConfig) : Except AdmissionError Admission :=
  match Network.ofEntries? c.cidrs with
  | .error (value, reason) => .error (.cidr value reason)
  | .ok cidrs =>
    match Network.ofEntries? c.trustedProxies with
    | .error (value, reason) => .error (.trustedProxy value reason)
    | .ok proxies => .ok ⟨c.mode, cidrs, .of proxies c.headerPriority⟩

/-- Whether an address is admitted. -/
def admits (a : Admission) (address : Address) : Bool :=
  match a.mode with
  | .allowList => Network.anyContains a.cidrs address
  | .denyList => !Network.anyContains a.cidrs address

/-- Whether a client is admitted, given where its connection comes from and its headers. -/
def evaluate (a : Admission) (peer : Option Endpoint) (m : Metadata) : Bool :=
  match a.client.resolve? peer m with
  | some address => a.admits address
  | none => false

/-- Whether a request is admitted. -/
def evaluateRequest {α : Type} (a : Admission) (r : Request α) : Bool := a.evaluate r.peer r.metadata

end Admission

end Turnstile
