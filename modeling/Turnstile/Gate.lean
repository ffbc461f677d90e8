import Turnstile.Layer
import Turnstile.Registry
import Turnstile.Pipeline.State

/-!
# Gates

The stages of a pipeline: the built-in gates and the user's own stages. Each gate is a layer on either
lane, and does on both the same: what it decides depends on the request alone, not on the kind of
result the lane has.

* `UserStage`, `Authenticator`: what the user may supply.
* `ensureRequestId`: giving a request its identifier, and `ensureRequestId_eq`, all that this does.
* `Gate`: the stages a lane is made of, and `Gate.layer`, what each does.
-/

namespace Turnstile

/-! ## The user's part -/

/-- What a user's stage does with a request: answer it, or pass on a request and treat the outcome. Should
there be a panic further in, the stage may catch it, count it or clean up after it. -/
inductive UserEntered (σ ν ρ : Type) where
  | answered (outcome : Outcome ρ)
  | passed (request : Request Payload) (leave : Outcome ρ → StateM (Own σ ν) (Outcome ρ))

/-- A stage of the user's, for a lane with results of type `ρ`. -/
structure UserStage (σ ν ρ : Type) where
  enter : Method → Request Payload → StateM (Own σ ν) (UserEntered σ ν ρ)

/-- How an authenticator answers. It may choose the status of a refusal or fail with an error. -/
inductive Credential where
  | accepted (context : Context)
  | refused (status : Status)
  | failed (error : String)
  | panicked (payload : Option String)

/-- Checks the credentials of a call, given the name of the method, the headers and the context. -/
abbrev Authenticator (σ ν : Type) :=
  String → Metadata → Context → StateM (Own σ ν) Credential

/-! ## Gates -/

/-- The stages of a lane with results of type `ρ`. -/
inductive Gate (σ ν ρ : Type) where
  | recovery (metrics : Option Collector)
  | admission (a : Admission)
  | rateLimit (g : RateGate)
  | authentication (a : Authenticator σ ν)
  | tagging
  | span
  | user (stage : UserStage σ ν ρ)

/-- The identifier in the request's own header, if it is there and not blank. -/
def Metadata.requestId? (m : Metadata) : Option RequestId :=
  ((m.text? RequestId.header).map Text.trim).bind fun s =>
    if s.isEmpty then none else some ⟨s⟩

/-- Makes sure that a request has an identifier: the one it has, else the one its caller passed on,
else a new one. -/
def ensureRequestId {σ ν α : Type} (r : Request α) :
    StateM (Pipeline.State σ ν) (RequestId × Request α) :=
  fun st =>
    match r.context.requestId with
    | some id => ((id, r), st)
    | none =>
      let (id, st) := match r.metadata.requestId? with
        | some id => (id, st)
        | none => st.mint
      ((id, r.updateContext fun c => { c with requestId := some id }), st)

/-- The identifier of a request that may have one of its own and one from its caller, and the supply of
identifiers then. -/
def RequestId.settle (own caller : Option RequestId) (minted : Mint) : RequestId × Mint :=
  match own.or caller with
  | some id => (id, minted)
  | none => minted.next

/-- **Making sure of an identifier** writes it into the context of the request and may mint one; it
does nothing else. -/
theorem ensureRequestId_eq {σ ν α : Type} (r : Request α) (st : Pipeline.State σ ν) :
    ensureRequestId r st
      = let settled := RequestId.settle r.context.requestId r.metadata.requestId? st.minted
        ((settled.1, r.updateContext fun c => { c with requestId := some settled.1 }),
          { st with minted := settled.2 }) := by
  unfold ensureRequestId
  cases hid : r.context.requestId with
  | some id =>
    -- the identifier is there already, and writing it changes nothing
    obtain ⟨metadata, peer, ⟨own, group, actor, others⟩, message⟩ := r
    obtain rfl : own = some id := hid
    rfl
  | none =>
    dsimp only
    cases r.metadata.requestId? <;> rfl

namespace Gate

variable {σ ν ρ : Type}

/-- A layer of a pipeline's lane. -/
abbrev LaneLayer (σ ν ρ : Type) := Layer (Pipeline.State σ ν) (Request Payload) (Outcome ρ)

/-- Answers with a status. -/
def reject (s : Status) : Entered (Pipeline.State σ ν) (Request Payload) (Outcome ρ) :=
  .answered (.failed s)

/-- Passes a request on and the outcome back. -/
def pass (r : Request Payload) : Entered (Pipeline.State σ ν) (Request Payload) (Outcome ρ) :=
  .passed r fun outcome st => (outcome, st)

/-- Turns a panic further in into a status; the panic is reported, and counted if there is a collector. -/
def recoveryLayer (metrics : Option Collector) (m : Method) : LaneLayer σ ν ρ :=
  ⟨fun r st =>
    let ((id, r), st) := ensureRequestId r st
    (.passed r fun outcome st =>
      match outcome with
      | .returned result => (.returned result, st)
      | .panicked payload =>
        let st := st.report (.panicRecovered m.fullName id payload)
        (.failed .internal, st.count metrics Ledger.recover), st)⟩

/-- Admits clients by their addresses. -/
def admissionLayer (a : Admission) (m : Method) : LaneLayer σ ν ρ :=
  ⟨fun r st =>
    if a.evaluateRequest r then (pass r, st)
    else (reject .blocked, st.report (.addressRejected m.fullName r.peer))⟩

/-- Takes a token for the call. -/
def rateLimitLayer (g : RateGate) (m : Method) : LaneLayer σ ν ρ :=
  ⟨fun r st =>
    let (verdict, buckets) := g.charge st.clock m.fullName (st.buckets.getD (g.fresh st.clock))
    let st := { st with buckets := some buckets }
    let st := match verdict.opened with
      | some (group, limiter) => st.report (.bucketOpened group limiter)
      | none => st
    if verdict.allowed then
      match verdict.group with
      | some group => (pass (r.updateContext fun c => { c with group := some group }), st)
      | none => (pass r, st)
    else (reject .rateLimited, st.report (.rateRejected m.fullName verdict.group))⟩

/-- Asks the authenticator. Its own status goes to the caller as it is; any other error is reported and
answered with a fixed status. -/
def authenticationLayer (a : Authenticator σ ν) (m : Method) : LaneLayer σ ν ρ :=
  ⟨fun r st =>
    match Pipeline.State.perform (a m.fullName r.metadata r.context) st with
    | (.accepted context, st) => (pass { r with context }, st)
    | (.refused s, st) => (reject s, st)
    | (.failed error, st) =>
      (reject .unauthenticated, st.report (.authenticationFailed m.fullName error))
    | (.panicked payload, st) => (.answered (.panicked payload), st)⟩

/-- Gives every request an identifier. -/
def taggingLayer : LaneLayer σ ν ρ :=
  ⟨fun r st =>
    let ((_, r), st) := ensureRequestId r st
    (pass r, st)⟩

/-- Reports a span around the rest of the call. -/
def spanLayer (m : Method) : LaneLayer σ ν ρ :=
  ⟨fun r st => (pass r, st.report (.callSpan m r.context.requestId))⟩

/-- Lets a user's stage act. -/
def userLayer (stage : UserStage σ ν ρ) (m : Method) : LaneLayer σ ν ρ :=
  ⟨fun r st =>
    match Pipeline.State.perform (stage.enter m r) st with
    | (.answered outcome, st) => (.answered outcome, st)
    | (.passed r leave, st) =>
      (.passed r fun outcome st => Pipeline.State.perform (leave outcome) st, st)⟩

/-- What a gate does with the calls of a method. -/
def layer (m : Method) : Gate σ ν ρ → LaneLayer σ ν ρ
  | .recovery metrics => recoveryLayer metrics m
  | .admission a => admissionLayer a m
  | .rateLimit g => rateLimitLayer g m
  | .authentication a => authenticationLayer a m
  | .tagging => taggingLayer
  | .span => spanLayer m
  | .user stage => userLayer stage m

/-- A lane around a handler. -/
def run (lane : List (Gate σ ν ρ)) (m : Method)
    (handler : Request Payload → StateM (Pipeline.State σ ν) (Outcome ρ)) :
    Request Payload → StateM (Pipeline.State σ ν) (Outcome ρ) :=
  Layer.chain (lane.map (layer m)) handler

end Gate

end Turnstile
