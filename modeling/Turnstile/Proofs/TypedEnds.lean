import Turnstile.Proofs.Identification

/-!
# The typed ends of a pipeline

Inside a pipeline messages have no types; at its ends they have. A request is typed again at the centre of
its lane, where the handler is, and a reply where it leaves the lane. If the types are still the ones that
handler and caller expect, nothing is lost: the handler gets what the innermost stage has passed on, and
the caller what the outermost one has returned. If a type was changed on the way, the call fails with a
fixed status; the handler is not run if it was the type of the request.

* `Request.typed?`, `Reply.typed?`: a message got back from its payload, and the rest as it was.
* `Gate.KeepsType`, `Gate.PassesOn`: stages that keep the type of the message, or the whole request.
* `Gate.LetsOut`: the stages of a lane let a result out as it is.
* `Gate.IsWayOut`: what a lane does with an outcome between its centre and its outer end.
* `Gate.IsWayOut.run_of_typed`, `Gate.IsWayOut.run_of_mistyped`: what the centre of a lane makes of a
  request.
* `ends_typed`: the three ways in.
-/

namespace Turnstile

/-! ## Typed messages -/

/-- The request with a message of type `α`, if its message is one. -/
def Request.typed? {α : Type} [Message α] (r : Request Payload) : Option (Request α) :=
  (Message.ofPayload? r.message).map fun a => r.map fun _ => a

/-- The reply with a message of type `β`, if its message is one. -/
def Reply.typed? {β : Type} [Message β] (r : Reply Payload) : Option (Reply β) :=
  (Message.ofPayload? r.message).map fun b => r.map fun _ => b

/-- What a lane ends in, with its reply typed. A reply of another type becomes a fixed status. -/
def Outcome.typed {β : Type} [Message β] : Outcome (Reply Payload) → Outcome (Reply β)
  | .returned (.ok reply) =>
    match (reply.typed? : Option (Reply β)) with
    | some reply => .ok reply
    | none => .failed .internal
  | .returned (.error s) => .failed s
  | .panicked payload => .panicked payload

/-- A typed request differs from the request in nothing but the type of its message. -/
theorem Request.typed?_eq_some_iff {α : Type} [Message α] {r : Request Payload} {q : Request α} :
    r.typed? = some q ↔ Message.ofPayload? r.message = some q.message ∧ q.metadata = r.metadata
      ∧ q.peer = r.peer ∧ q.context = r.context := by
  obtain ⟨metadata, peer, context, message⟩ := q
  unfold typed?
  constructor
  · intro h
    obtain ⟨a, ha, hq⟩ := Option.map_eq_some_iff.mp h
    cases hq
    exact ⟨ha, rfl, rfl, rfl⟩
  · rintro ⟨ha, rfl, rfl, rfl⟩
    rw [ha]
    rfl

@[simp] theorem Request.typed?_toPayload {α : Type} [Message α] (r : Request α) :
    (r.map Message.toPayload).typed? = some r :=
  typed?_eq_some_iff.mpr ⟨Message.ofPayload?_toPayload r.message, rfl, rfl, rfl⟩

/-- So does a typed reply from the reply. -/
theorem Reply.typed?_eq_some_iff {β : Type} [Message β] {r : Reply Payload} {q : Reply β} :
    r.typed? = some q ↔ Message.ofPayload? r.message = some q.message ∧ q.metadata = r.metadata
      ∧ q.context = r.context := by
  obtain ⟨metadata, context, message⟩ := q
  unfold typed?
  constructor
  · intro h
    obtain ⟨b, hb, hq⟩ := Option.map_eq_some_iff.mp h
    cases hq
    exact ⟨hb, rfl, rfl⟩
  · rintro ⟨hb, rfl, rfl⟩
    rw [hb]
    rfl

@[simp] theorem Reply.typed?_toPayload {β : Type} [Message β] (r : Reply β) :
    (r.map Message.toPayload).typed? = some r :=
  typed?_eq_some_iff.mpr ⟨Message.ofPayload?_toPayload r.message, rfl, rfl⟩

/-- What a handler returns is the same once it is typed again. -/
theorem Outcome.typed_toPayload {β : Type} [Message β] (result : Except Status (Reply β)) :
    (Outcome.returned (result.map (Reply.map Message.toPayload))).typed = .returned result := by
  cases result with
  | error s => rfl
  | ok reply =>
    show (match ((reply.map Message.toPayload).typed? : Option (Reply β)) with
      | some reply => Outcome.ok reply
      | none => .failed .internal) = _
    rw [Reply.typed?_toPayload]
    rfl

theorem Outcome.typed_of_mistyped {β : Type} [Message β] {reply : Reply Payload}
    (h : (reply.typed? : Option (Reply β)) = none) :
    (Outcome.ok reply).typed = (.failed .internal : Outcome (Reply β)) := by
  show (match (reply.typed? : Option (Reply β)) with
    | some reply => Outcome.ok reply
    | none => .failed .internal) = _
  rw [h]

namespace Pipeline

variable {σ ν : Type}

theorem restoreReply_typed {β : Type} [Message β] (m : Method) (o : Outcome (Reply Payload))
    (st : State σ ν) : (restoreReply m o st).1 = (o.typed : Outcome (Reply β)) := by
  unfold restoreReply Outcome.typed Reply.typed?
  cases o with
  | panicked payload => rfl
  | returned result =>
    cases result with
    | error s => rfl
    | ok reply =>
      dsimp only
      cases (Message.ofPayload? reply.message : Option β) <;> rfl

/-- The centre hands a request that is typed to the handler. -/
theorem centre_of_typed {α ρ : Type} [Message α] {m : Method} {r : Request Payload} {q : Request α}
    (h : r.typed? = some q) (handler : Request α → StateM (State σ ν) (Outcome ρ)) :
    centre m handler r = handler q := by
  obtain ⟨a, ha, rfl⟩ := Option.map_eq_some_iff.mp h
  funext st
  rw [centre, ha]

/-- The centre answers a request of another type. -/
theorem centre_of_mistyped {α ρ : Type} [Message α] {m : Method} {r : Request Payload}
    (h : (r.typed? : Option (Request α)) = none)
    (handler : Request α → StateM (State σ ν) (Outcome ρ)) :
    centre m handler r = fun st => (.failed .internal, st.report (.requestTypeChanged m.fullName)) := by
  funext st
  rw [centre, Option.map_eq_none_iff.mp h]

end Pipeline

/-! ## Stages that leave messages and results alone -/

/-- A stage lets a result out as it is, whatever it did on the way in. -/
def UserStage.LetsOut {σ ν ρ : Type} (m : Method) (x : Except Status ρ) (stage : UserStage σ ν ρ) :
    Prop :=
  ∀ ⦃r own r' leave own'⦄, stage.enter m r own = (.passed r' leave, own') →
    ∀ own, (leave (.returned x) own).1 = .returned x

namespace Gate

variable {σ ν ρ : Type}

/-- A stage of the user's keeps the type of the message. -/
def KeepsType (α : Type) [Message α] : Gate σ ν ρ → Request Payload → Request Payload → Prop
  | .user _, r, r' => (r.typed? : Option (Request α)).isSome → (r'.typed? : Option (Request α)).isSome
  | _, _, _ => True

/-- A stage of the user's passes the request on as it is. -/
def PassesOn : Gate σ ν ρ → Request Payload → Request Payload → Prop
  | .user _, r, r' => r' = r
  | _, _, _ => True

/-- The stages of a lane let a result out as it is. -/
def LetsOut (m : Method) (lane : List (Gate σ ν ρ)) (x : Except Status ρ) : Prop :=
  ∀ stage, .user stage ∈ lane → stage.LetsOut m x

section

variable {m : Method} {gate : Gate σ ν ρ} {lane : List (Gate σ ν ρ)} {r r' : Request Payload}
  {st st' : Pipeline.State σ ν}

/-! ### On the way in -/

/-- The built-in gates change nothing of a request but its context. -/
theorem exists_context (hg : ∀ stage, gate ≠ .user stage) (h : gate.Hands m r st r' st') :
    ∃ context, r' = { r with context } := by
  cases gate with
  | recovery metrics | tagging =>
    obtain ⟨rfl, -⟩ := h
    rw [ensureRequestId_eq]
    exact ⟨_, rfl⟩
  | admission a | span =>
    obtain ⟨rfl, -⟩ := h
    exact ⟨_, rfl⟩
  | rateLimit g =>
    obtain ⟨⟨now, b, rfl⟩, -⟩ := h
    unfold grouped
    cases (g.charge now m.fullName b).1.group <;> exact ⟨_, rfl⟩
  | authentication a => exact h.1
  | user stage => exact absurd rfl (hg stage)

/-- If the stages keep the type of the message, it arrives with it. -/
theorem typed_of_arrival {α : Type} [Message α] (hs : Along (KeepsType α) m lane r st)
    (ha : arrival? m lane r st = some (r', st')) (h : (r.typed? : Option (Request α)).isSome) :
    (r'.typed? : Option (Request α)).isSome := by
  refine arrival?_keeps (I := fun r _ => (r.typed? : Option (Request α)).isSome) ?_ hs h ha
  intro gate _ r st r₁ leave st₁ hkeeps he h
  have hhands := hands_of_passed he
  cases gate with
  | user stage => exact hkeeps h
  | recovery | admission | rateLimit | authentication | tagging | span =>
    obtain ⟨context, rfl⟩ := exists_context (fun _ h => by cases h) hhands
    unfold Request.typed? at h ⊢
    rwa [Option.isSome_map] at h ⊢

/-- If the stages pass the request on as it is, it arrives as it was, up to what the built-in gates write
into its context. -/
theorem same_of_arrival (hs : Along PassesOn m lane r st)
    (ha : arrival? m lane r st = some (r', st')) : ∃ context, r' = { r with context } := by
  refine arrival?_keeps (I := fun r' _ => ∃ context, r' = { r with context }) ?_ hs ⟨_, rfl⟩ ha
  rintro gate - _ st r₁ leave st₁ hpasses he ⟨context, rfl⟩
  have hhands := hands_of_passed he
  cases gate with
  | user stage => exact ⟨context, hpasses⟩
  | recovery | admission | rateLimit | authentication | tagging | span =>
    obtain ⟨context', rfl⟩ := exists_context (fun _ h => by cases h) hhands
    exact ⟨context', rfl⟩

/-- On a lane of stages alone it arrives as it was. -/
theorem eq_of_arrival (hl : ∀ gate ∈ lane, gate.isStage = true) (hs : Along PassesOn m lane r st)
    (ha : arrival? m lane r st = some (r', st')) : r' = r := by
  refine arrival?_keeps (I := fun r' _ => r' = r) ?_ hs rfl ha
  rintro gate hg r st r₁ leave st₁ hpasses he rfl
  have hhands := hands_of_passed he
  cases gate with
  | user stage => exact hpasses
  | span => exact hhands.1
  | recovery | admission | rateLimit | authentication | tagging => cases hl _ hg

/-! ### On the way out -/

/-- What becomes of an outcome on its way out. -/
abbrev WayOut (σ ν ρ : Type) := Outcome ρ → StateM (Pipeline.State σ ν) (Outcome ρ)

/-- What the stages of a lane let out, its gates let out. -/
theorem outward_letsOut (hg : gate ∈ lane) (x : Except Status ρ) (hx : LetsOut m lane x) :
    gate.Outward (fun a b => a.1 = .returned x → b.1 = .returned x) m := by
  rintro r st r₁ leave st₁ he ⟨outcome, st₂⟩ rfl
  cases gate with
  | recovery metrics =>
    rw [layer, recoveryLayer_enter] at he
    cases he
    rfl
  | user stage =>
    have hstage := hx stage hg
    simp only [layer, userLayer] at he
    cases hp : Pipeline.State.perform (stage.enter m r) st with
    | mk entered st₃ =>
      rw [hp] at he
      cases entered with
      | answered outcome => cases he
      | passed r₂ back =>
        cases he
        obtain ⟨own, hentered⟩ := Pipeline.State.exists_of_perform hp
        exact hstage hentered _
  | admission | rateLimit | authentication | tagging | span =>
    rw [leave_eq he rfl fun _ h => by cases h]

/-- `leave` is the way out of a lane for a request that goes in as `r` and arrives as `r'`: whatever is at
the centre, the lane ends in what `leave` makes of its outcome. It keeps the outbox, and lets out what the
stages of the lane let out. -/
structure IsWayOut (m : Method) (lane : List (Gate σ ν ρ)) (r : Request Payload)
    (st : Pipeline.State σ ν) (r' : Request Payload) (st' : Pipeline.State σ ν)
    (leave : WayOut σ ν ρ) : Prop where
  run_eq : ∀ inner, run lane m inner r st = leave (inner r' st').1 (inner r' st').2
  outbox_eq : ∀ outcome st, (leave outcome st).2.outbox = st.outbox
  returns : ∀ x, LetsOut m lane x → ∀ st, (leave (.returned x) st).1 = .returned x

/-- **A request that arrives** has a way out. -/
theorem exists_way_out (h : arrival? m lane r st = some (r', st')) :
    ∃ leave : WayOut σ ν ρ, IsWayOut m lane r st r' st' leave := by
  obtain ⟨leave, hrun, hout⟩ := run_of_arrival
    (P := fun a b => b.2.outbox = a.2.outbox
      ∧ ∀ x, LetsOut m lane x → a.1 = .returned x → b.1 = .returned x)
    (fun _ => ⟨rfl, fun _ _ h => h⟩)
    (fun _ _ _ h h' => ⟨h'.1.trans h.1, fun x hx ha => h'.2 x hx (h.2 x hx ha)⟩)
    (fun gate hg _ _ _ _ _ he made => ⟨(layer_outbox gate m).leave he made.1 made.2,
      fun x hx => outward_letsOut hg x hx he made⟩) h
  exact ⟨leave, hrun, fun outcome st => (hout (outcome, st)).1,
    fun x hx st => (hout (.returned x, st)).2 x hx rfl⟩

/-- The outbox is the same where a request arrives. -/
theorem outbox_of_arrival (h : arrival? m lane r st = some (r', st')) : st'.outbox = st.outbox := by
  refine arrival?_keeps (P := fun _ _ _ => True) (I := fun _ st' => st'.outbox = st.outbox) ?_
    (along_of_forall fun _ _ _ _ _ _ _ _ => trivial) rfl h
  intro gate _ r₁ st₁ r₂ leave st₂ _ he hout
  have hin := (layer_outbox gate m).enter r₁ st₁
  rw [he] at hin
  exact Eq.trans hin hout

/-! ### At the centre -/

variable {α : Type} [Message α]

namespace IsWayOut

variable {leave : WayOut σ ν ρ}

/-- **A request that arrives typed** is handed to the handler, once. -/
theorem run_of_typed (hl : IsWayOut m lane r st r' st' leave) {q : Request α} (hq : r'.typed? = some q)
    (handler : Request α → StateM (Pipeline.State σ ν) (Outcome ρ)) :
    run lane m (Pipeline.centre m handler) r st = leave (handler q st').1 (handler q st').2 := by
  rw [hl.run_eq, Pipeline.centre_of_typed hq]

/-- **A request that arrives with another type** fails, and the handler is not run. -/
theorem run_of_mistyped (hl : IsWayOut m lane r st r' st' leave)
    (hq : (r'.typed? : Option (Request α)) = none)
    (handler : Request α → StateM (Pipeline.State σ ν) (Outcome ρ)) :
    run lane m (Pipeline.centre m handler) r st
      = leave (.failed .internal) (st'.report (.requestTypeChanged m.fullName)) := by
  rw [hl.run_eq, Pipeline.centre_of_mistyped hq]

end IsWayOut

end

end Gate

/-! ## The three ways in -/

namespace Pipeline

variable {σ ν : Type} {p : Pipeline σ ν} {m : Method} {α β : Type} [Message α] [Message β]
  {r : Request α} {r' : Request Payload} {st st' : State σ ν}

/-- A unary call whose request arrives typed runs its handler once and types the reply that the lane ends
in. -/
theorem callUnary_of_typed {leave : Gate.WayOut σ ν (Reply Payload)}
    (hl : Gate.IsWayOut m p.unary (r.map Message.toPayload) st r' st' leave) {q : Request α}
    (hq : r'.typed? = some q) (handler : Request α → StateM (Own σ ν) (Outcome (Reply β))) :
    let handled := State.perform (handler q) st'
    let left := leave (handled.1.map (Reply.map Message.toPayload)) handled.2
    let made := p.callUnary m r handler st
    Gate.run p.unary m (centre m (answering handler)) (r.map Message.toPayload) st = left
      ∧ made.1 = left.1.typed ∧ made.2.user = left.2.user
      ∧ ∀ result, handled.1 = .returned result →
          Gate.LetsOut m p.unary (result.map (Reply.map Message.toPayload)) →
          made.1 = .returned result := by
  intro handled left made
  have hleft : Gate.run p.unary m (centre m (answering handler)) (r.map Message.toPayload) st = left :=
    hl.run_of_typed hq (answering handler)
  have hmade : made.1 = left.1.typed := by
    rw [← hleft]
    exact restoreReply_typed ..
  refine ⟨hleft, hmade, ?_, ?_⟩
  · rw [← hleft]
    exact congrArg State.Core.user (core_callUnary p m r handler st)
  · intro result hresult hlets
    have hkept : left.1 = .returned (result.map (Reply.map Message.toPayload)) := by
      show (leave (handled.1.map (Reply.map Message.toPayload)) handled.2).1 = _
      rw [hresult]
      exact hl.returns _ hlets _
    rw [hmade, hkept, Outcome.typed_toPayload]

/-- A unary call whose request arrives with another type does not run its handler. -/
theorem callUnary_of_mistyped {leave : Gate.WayOut σ ν (Reply Payload)}
    (hl : Gate.IsWayOut m p.unary (r.map Message.toPayload) st r' st' leave)
    (hq : (r'.typed? : Option (Request α)) = none) :
    ∃ made : Outcome (Reply β) × State σ ν,
      (∀ handler : Request α → StateM (Own σ ν) (Outcome (Reply β)), p.callUnary m r handler st = made)
        ∧ (Gate.LetsOut m p.unary (.error .internal) → made.1 = .failed .internal) := by
  let left := leave (.failed .internal) (st'.report (.requestTypeChanged m.fullName))
  let restored : Outcome (Reply β) × State σ ν := restoreReply m left.1 left.2
  refine ⟨(restored.1, p.recordTime m (p.recordOutcome m restored.1 restored.2)), ?_, ?_⟩
  · intro handler
    rw [callUnary_eq, hl.run_of_mistyped hq]
  · intro hlets
    have hleft : left.1 = .failed .internal := hl.returns _ hlets _
    show restored.1 = _
    rw [restoreReply_typed, hleft]
    rfl

/-- A call of a stream whose request arrives typed runs its handler once and ends as its lane. -/
theorem callStream_of_typed {leave : Gate.WayOut σ ν Unit}
    (hl : Gate.IsWayOut m p.stream (r.map Message.toPayload) st r' st' leave) {q : Request α}
    (hq : r'.typed? = some q) (handler : Request α → StateM (State σ ν) (Outcome Unit)) :
    let handled := handler q st'
    let left := leave handled.1 handled.2
    let made := p.callStream m r handler st
    Gate.run p.stream m (centre m handler) (r.map Message.toPayload) st = left
      ∧ made.1 = left.1 ∧ made.2.core = left.2.core
      ∧ ∀ result, handled.1 = .returned result → Gate.LetsOut m p.stream result →
          made.1 = .returned result := by
  intro handled left made
  have hleft : Gate.run p.stream m (centre m handler) (r.map Message.toPayload) st = left :=
    hl.run_of_typed hq handler
  have hmade : made.1 = left.1 := by
    rw [← hleft]
    rfl
  refine ⟨hleft, hmade, ?_, ?_⟩
  · rw [← hleft]
    exact core_callStream p m r handler st
  · intro result hresult hlets
    rw [hmade]
    show (leave handled.1 handled.2).1 = _
    rw [hresult]
    exact hl.returns result hlets _

/-- A call of a stream whose request arrives with another type does not run its handler. -/
theorem callStream_of_mistyped {leave : Gate.WayOut σ ν Unit}
    (hl : Gate.IsWayOut m p.stream (r.map Message.toPayload) st r' st' leave)
    (hout : st'.outbox = st.outbox) (hq : (r'.typed? : Option (Request α)) = none) :
    ∃ made : Outcome Unit × State σ ν,
      (∀ handler : Request α → StateM (State σ ν) (Outcome Unit), p.callStream m r handler st = made)
        ∧ made.2.outbox = st.outbox
        ∧ (Gate.LetsOut m p.stream (.error .internal) → made.1 = .failed .internal) := by
  let left := leave (.failed .internal) (st'.report (.requestTypeChanged m.fullName))
  refine ⟨Exchange.account p m left, ?_, ?_, fun hlets => hl.returns _ hlets _⟩
  · intro handler
    rw [callStream_eq, hl.run_of_mistyped hq]
    rfl
  · rw [Exchange.account_outbox]
    exact (hl.outbox_eq ..).trans hout

/-- A call whose handler sends to the caller, once its request arrives typed, delivers what the handler
has sent, and the status that the lane ends in if it fails. -/
theorem callServerStream_of_typed {leave : Gate.WayOut σ ν Unit}
    (hl : Gate.IsWayOut m p.stream (r.map Message.toPayload) { st with outbox := none } r' st' leave)
    {q : Request α} (hq : r'.typed? = some q) (handler : Request α → StateM (Own σ ν) Production) :
    let handled := State.perform (handler q) st'
    let left := leave handled.1.outcome { handled.2 with outbox := some handled.1.items }
    let made := p.callServerStream m r handler st
    Gate.run p.stream m (centre m (producer handler)) (r.map Message.toPayload)
        { st with outbox := none } = left
      ∧ made.1 = .ok (handled.1.items ++ left.1.closing) ∧ made.2.user = left.2.user
      ∧ ∀ result, handled.1.outcome = .returned result → Gate.LetsOut m p.stream result →
          made.1 = .ok (handled.1.items ++ (Outcome.returned result).closing) := by
  intro handled left made
  obtain ⟨hleft, hfst, hcore, hresult⟩ := callStream_of_typed hl hq (producer handler)
  let called := p.callStream m r (producer handler) { st with outbox := none }
  have hsent : called.2.outbox = some handled.1.items :=
    (congrArg State.Core.outbox hcore).trans (hl.outbox_eq _ _)
  have hmade : ∀ outcome, called.1 = outcome → made.1 = .ok (handled.1.items ++ outcome.closing) := by
    rintro outcome rfl
    show (delivered m called.2.outbox called.1 called.2).1 = _
    rw [hsent]
    exact Exchange.delivered_started ..
  refine ⟨hleft, hmade _ hfst, ?_, fun result hr hlets => hmade _ (hresult result hr hlets)⟩
  have hdelivered : (delivered m called.2.outbox called.1 called.2).2.core = called.2.core :=
    delivered_keeps (P := fun st st' => st'.core = st.core) (fun _ => rfl) State.core_report ..
  exact (congrArg State.Core.user hdelivered).trans (congrArg State.Core.user hcore)

/-- A call whose handler would send to the caller, if its request arrives with another type, does not run
it: the caller is refused, whatever the pace of the exchange, and reads nothing. -/
theorem callServerStream_of_mistyped {leave : Gate.WayOut σ ν Unit}
    (hl : Gate.IsWayOut m p.stream (r.map Message.toPayload) { st with outbox := none } r' st' leave)
    (hout : st'.outbox = none) (hq : (r'.typed? : Option (Request α)) = none) :
    ∃ made : Except Status (List (Except Status Payload)) × State σ ν,
      (∀ handler : Request α → StateM (Own σ ν) Production, p.callServerStream m r handler st = made)
        ∧ (Gate.LetsOut m p.stream (.error .internal) → made.1 = .error .internal
          ∧ ∀ (handler : Request α → StateM (Own σ ν) Sending) (as : List ExchangeStep)
              (x : Exchange σ ν), (Exchange.start st).run p m r handler as = some x →
              x.received = [] ∧ x.reader ≠ .ended ∧ ∀ s, x.reader = .refused s → s = .internal) := by
  obtain ⟨called, hcall, houtbox, hfailed⟩ := callStream_of_mistyped hl hout hq
  have hnone : called.2.outbox = none := houtbox
  let answer := delivered m called.2.outbox called.1 called.2
  refine ⟨(answer.1, { answer.2 with outbox := none }), ?_, ?_⟩
  · intro handler
    rw [callServerStream_eq, hcall]
  · intro hlets
    have hinternal := hfailed hlets
    constructor
    · show answer.1 = _
      simp only [answer, hnone, hinternal]
      rfl
    · intro handler as x hx
      have hsound := (Exchange.sound_of_run hx).2.1
      rw [hcall] at hsound
      obtain ⟨hempty, -, -⟩ := hsound.of_unstarted hnone
      obtain ⟨hended, hrefused⟩ := hsound.of_failed hinternal
      refine ⟨hempty, ?_, hrefused⟩
      intro he
      obtain ⟨items, hitems, -⟩ := hended he
      rw [hnone] at hitems
      cases hitems

end Pipeline

/-! ## The main statement -/

section

variable {σ ν : Type}

/-- **The ends of a pipeline are typed.** For any two lanes, whatever their gates, and for a request that
arrives at the end of a lane, as `r'`:
* what is typed again of `r'` is `r'` with its message typed, and so it is with replies;
* if the stages on the way keep the type of the message, it can be typed again, and if they pass the
  request on as it is, it is the caller's request, with what built-in gates have written into its context;
* each lane has a way out, which turns the outcome at its centre, whatever is there, into the one in which
  the lane ends;
* on the unary lane, if it can be typed again, that is what the handler gets; the handler is run once, and
  the lane ends in what its way out makes of the handler's reply or status; that is what the caller gets,
  and it is the handler's own if the stages let it out; where the lane ends in a reply of another type,
  the call fails with a fixed status;
* on the streaming lane, likewise, and the call ends as the lane does;
* a handler that sends to the caller is run once too; the caller gets what it has sent, and then the
  status that the lane ends in, if it fails;
* if the request cannot be typed again, the handler is not run, and where the stages let that out, each of
  the three ways in fails with the fixed status. Behind a stream that is the status of the call, in every
  run of the exchange, and nothing is read. -/
theorem ends_typed (p : Pipeline σ ν) (m : Method) {α β : Type} [Message α] [Message β] (r : Request α)
    (st st' : Pipeline.State σ ν) (r' : Request Payload) :
    let coming := r.map Message.toPayload
    let typed : Option (Request α) := r'.typed?
    let internal : Status := ⟨.internal, "internal server error"⟩
    (∀ q, typed = some q ↔ Message.ofPayload? r'.message = some q.message ∧ q.metadata = r'.metadata
      ∧ q.peer = r'.peer ∧ q.context = r'.context)
    ∧ (∀ (reply : Reply Payload) (b : Reply β), reply.typed? = some b ↔
        Message.ofPayload? reply.message = some b.message ∧ b.metadata = reply.metadata
          ∧ b.context = reply.context)
    ∧ (∀ {ρ : Type} (lane : List (Gate σ ν ρ)),
        Gate.arrival? m lane coming st = some (r', st') →
        (Gate.Along (Gate.KeepsType α) m lane coming st → typed.isSome)
        ∧ (Gate.Along Gate.PassesOn m lane coming st →
            (∃ context, typed = some { r with context })
            ∧ ((∀ gate ∈ lane, gate.isStage = true) → typed = some r)))
    ∧ (Gate.arrival? m p.unary coming st = some (r', st') →
        ∃ leave : Gate.WayOut σ ν (Reply Payload), Gate.IsWayOut m p.unary coming st r' st' leave
        ∧ (∀ q, typed = some q → ∀ handler : Request α → StateM (Own σ ν) (Outcome (Reply β)),
          let handled := Pipeline.State.perform (handler q) st'
          let left := leave (handled.1.map (Reply.map Message.toPayload)) handled.2
          let made := p.callUnary m r handler st
          Gate.run p.unary m (Pipeline.centre m (Pipeline.answering handler)) coming st = left
          ∧ made.1 = left.1.typed ∧ made.2.user = left.2.user
          ∧ (∀ reply, left.1 = .ok reply → (reply.typed? : Option (Reply β)) = none →
              made.1 = .failed internal)
          ∧ ∀ result, handled.1 = .returned result →
              Gate.LetsOut m p.unary (result.map (Reply.map Message.toPayload)) →
              made.1 = .returned result)
        ∧ (typed = none → ∃ made : Outcome (Reply β) × Pipeline.State σ ν,
            (∀ handler : Request α → StateM (Own σ ν) (Outcome (Reply β)),
              p.callUnary m r handler st = made)
            ∧ (Gate.LetsOut m p.unary (.error internal) → made.1 = .failed internal)))
    ∧ (Gate.arrival? m p.stream coming st = some (r', st') →
        ∃ leave : Gate.WayOut σ ν Unit, Gate.IsWayOut m p.stream coming st r' st' leave
        ∧ (∀ q, typed = some q →
            ∀ handler : Request α → StateM (Pipeline.State σ ν) (Outcome Unit),
            let handled := handler q st'
            let left := leave handled.1 handled.2
            let made := p.callStream m r handler st
            Gate.run p.stream m (Pipeline.centre m handler) coming st = left
            ∧ made.1 = left.1 ∧ made.2.user = left.2.user
            ∧ ∀ result, handled.1 = .returned result → Gate.LetsOut m p.stream result →
                made.1 = .returned result)
        ∧ (typed = none → ∃ made : Outcome Unit × Pipeline.State σ ν,
            (∀ handler : Request α → StateM (Pipeline.State σ ν) (Outcome Unit),
              p.callStream m r handler st = made)
            ∧ (Gate.LetsOut m p.stream (.error internal) → made.1 = .failed internal)))
    ∧ (Gate.arrival? m p.stream coming { st with outbox := none } = some (r', st') →
        ∃ leave : Gate.WayOut σ ν Unit,
        Gate.IsWayOut m p.stream coming { st with outbox := none } r' st' leave
        ∧ (∀ q, typed = some q → ∀ handler : Request α → StateM (Own σ ν) Production,
          let handled := Pipeline.State.perform (handler q) st'
          let left := leave handled.1.outcome { handled.2 with outbox := some handled.1.items }
          let made := p.callServerStream m r handler st
          Gate.run p.stream m (Pipeline.centre m (Pipeline.producer handler)) coming
              { st with outbox := none } = left
          ∧ made.1 = .ok (handled.1.items ++ left.1.closing) ∧ made.2.user = left.2.user
          ∧ ∀ result, handled.1.outcome = .returned result → Gate.LetsOut m p.stream result →
              made.1 = .ok (handled.1.items ++ (Outcome.returned result).closing))
        ∧ (typed = none → ∃ made : Except Status (List (Except Status Payload)) × Pipeline.State σ ν,
            (∀ handler : Request α → StateM (Own σ ν) Production,
              p.callServerStream m r handler st = made)
            ∧ (Gate.LetsOut m p.stream (.error internal) → made.1 = .error internal
              ∧ ∀ (handler : Request α → StateM (Own σ ν) Sending) (as : List ExchangeStep)
                  (x : Exchange σ ν), (Exchange.start st).run p m r handler as = some x →
                  x.received = [] ∧ x.reader ≠ .ended ∧ ∀ s, x.reader = .refused s → s = internal))) := by
  intro coming typed internal
  refine ⟨fun q => Request.typed?_eq_some_iff, fun reply b => Reply.typed?_eq_some_iff, ?_, ?_, ?_, ?_⟩
  · intro ρ lane ha
    constructor
    · intro hs
      exact Gate.typed_of_arrival hs ha (by simp [coming])
    · intro hs
      constructor
      · obtain ⟨context, rfl⟩ := Gate.same_of_arrival hs ha
        exact ⟨context, Request.typed?_toPayload { r with context }⟩
      · intro hl
        obtain rfl := Gate.eq_of_arrival hl hs ha
        exact Request.typed?_toPayload r
  · intro ha
    obtain ⟨leave, hl⟩ := Gate.exists_way_out ha
    refine ⟨leave, hl, ?_, Pipeline.callUnary_of_mistyped hl⟩
    intro q hq handler handled left made
    obtain ⟨hleft, htyped, huser, hresult⟩ := Pipeline.callUnary_of_typed hl hq handler
    refine ⟨hleft, htyped, huser, ?_, hresult⟩
    intro reply hreply hnone
    rw [htyped, hreply]
    exact Outcome.typed_of_mistyped hnone
  · intro ha
    obtain ⟨leave, hl⟩ := Gate.exists_way_out ha
    refine ⟨leave, hl, ?_, ?_⟩
    · intro q hq handler handled left made
      obtain ⟨hleft, hsame, hcore, hresult⟩ := Pipeline.callStream_of_typed hl hq handler
      exact ⟨hleft, hsame, congrArg Pipeline.State.Core.user hcore, hresult⟩
    · intro hq
      obtain ⟨made, hcall, -, hfailed⟩ :=
        Pipeline.callStream_of_mistyped hl (Gate.outbox_of_arrival ha) hq
      exact ⟨made, hcall, hfailed⟩
  · intro ha
    obtain ⟨leave, hl⟩ := Gate.exists_way_out ha
    exact ⟨leave, hl, fun q hq => Pipeline.callServerStream_of_typed hl hq,
      Pipeline.callServerStream_of_mistyped hl (Gate.outbox_of_arrival ha)⟩

/-- A stage turns the messages of callers with an address into numbers, and another one the replies of a
method. The echo of a text comes back to a caller without an address; with one, every call fails,
whatever its handler. Where the reply is turned into a number, the lane ends in that number, the handler
has counted one call, and the caller gets the fixed status. -/
theorem ends_typed_retyped :
    let retyping (ρ : Type) : UserStage Nat Unit ρ := ⟨fun _ r =>
      return .passed (if r.peer.isSome then r.map fun _ => .number 7 else r) fun x => return x⟩
    let answeringNumbers : UserStage Nat Unit (Reply Payload) := ⟨fun m r =>
      return .passed r fun x =>
        return if m.fullName = "/S/B" then x.map (Reply.map fun _ => .number 7) else x⟩
    let p : Pipeline Nat Unit :=
      (Choices.of [.user (.unary answeringNumbers), .user (.both (retyping _) (retyping _))]).pipeline none
    let m : Method := .unary "/S/A"
    let m' : Method := .unary "/S/B"
    let st : Pipeline.State Nat Unit := { user := 0 }
    let near : Request String := { message := "hello" }
    let far : Request String := { near with peer := some { address := .v4 1, port := 80 } }
    let echo : Request String → StateM (Own Nat Unit) (Outcome (Reply String)) := fun q own =>
      (.ok { metadata := q.metadata, message := q.message }, { own with state := own.state + 1 })
    (p.callUnary m near echo st).1 = .ok { message := "hello" }
      ∧ ((Gate.run p.unary m' (Pipeline.centre m' (Pipeline.answering echo))
            (near.map Message.toPayload) st).1 = .ok { message := .number 7 }
          ∧ (p.callUnary m' near echo st).1 = .failed .internal
          ∧ (p.callUnary m' near echo st).2.user = 1)
      ∧ (∀ handler : Request String → StateM (Own Nat Unit) (Outcome (Reply String)),
          (p.callUnary m far handler st).1 = .failed .internal)
      ∧ (∀ handler : Request String → StateM (Pipeline.State Nat Unit) (Outcome Unit),
          (p.callStream m far handler st).1 = .failed .internal)
      ∧ ∀ handler : Request String → StateM (Own Nat Unit) Production,
          (p.callServerStream m far handler st).1 = .error .internal := by
  intro retyping answeringNumbers p m m' st near far echo
  have hunary : p.unary = [.user answeringNumbers, .user (retyping _)] := rfl
  have hstream : p.stream = [.user (retyping _)] := rfl
  have hretyping : ∀ {ρ : Type} (x : Except Status ρ), (retyping ρ).LetsOut m x := by
    rintro ρ x r own r' leave own' he own
    cases he
    rfl
  have hanswering : ∀ x, answeringNumbers.LetsOut m x := by
    rintro x r own r' leave own' he own
    cases he
    rfl
  have hout : ∀ x, Gate.LetsOut m p.unary x := by
    intro x stage hstage
    rw [hunary] at hstage
    simp only [List.mem_cons, Gate.user.injEq, List.not_mem_nil, or_false] at hstage
    rcases hstage with rfl | rfl
    · exact hanswering x
    · exact hretyping x
  have hout' : ∀ x, Gate.LetsOut m p.stream x := by
    intro x stage hstage
    rw [hstream] at hstage
    simp only [List.mem_cons, Gate.user.injEq, List.not_mem_nil, or_false] at hstage
    obtain rfl := hstage
    exact hretyping x
  obtain ⟨-, -, -, hnear, -, -⟩ :=
    ends_typed (β := String) p m near st st (near.map Message.toPayload)
  obtain ⟨-, -, -, hnear', -, -⟩ :=
    ends_typed (β := String) p m' near st st (near.map Message.toPayload)
  obtain ⟨-, -, -, hfar, hfarStream, hfarServer⟩ :=
    ends_typed (β := String) p m far st st (far.map fun _ => .number 7)
  refine ⟨?_, ?_, ?_, ?_, ?_⟩
  · obtain ⟨leave, -, htyped, -⟩ := hnear rfl
    obtain ⟨-, -, -, -, hresult⟩ := htyped near rfl echo
    exact hresult _ rfl (hout _)
  · obtain ⟨leave, -, htyped, -⟩ := hnear' rfl
    obtain ⟨hleft, -, huser, hmistyped, -⟩ := htyped near rfl echo
    -- the lane is run on the handler's reply, and the outer stage has made a number of that
    have hnumber : (Gate.run p.unary m' (Pipeline.centre m' (Pipeline.answering echo))
        (near.map Message.toPayload) st).1 = .ok { message := .number 7 } := rfl
    refine ⟨hnumber, hmistyped _ (hleft ▸ hnumber) rfl, ?_⟩
    rw [huser, ← hleft]
    rfl
  · intro handler
    obtain ⟨leave, -, -, hmistyped⟩ := hfar rfl
    obtain ⟨made, hcall, hfailed⟩ := hmistyped rfl
    rw [hcall]
    exact hfailed (hout _)
  · intro handler
    obtain ⟨leave, -, -, hmistyped⟩ := hfarStream rfl
    obtain ⟨made, hcall, hfailed⟩ := hmistyped rfl
    rw [hcall]
    exact hfailed (hout' _)
  · intro handler
    obtain ⟨leave, -, -, hmistyped⟩ := hfarServer rfl
    obtain ⟨made, hcall, hfailed⟩ := hmistyped rfl
    rw [hcall]
    exact (hfailed (hout' _)).1

end

end Turnstile
