import Turnstile.Proofs.Containment

/-!
# Streams among other calls

The task of a stream goes on while other calls are made and other streams are open, and all of them share
the state of the pipeline. What a stream has to itself is its exchange. To its lane all that others do
while its handler runs is as if the handler had done it: the way in is taken from one state, and the way
out from the state in which the handler has ended.

A call without a task of its own ends with its caller: if that goes away while the call waits in the
user's code, the call is dropped where it is. It was timed then, but has not ended with a code.

* `Gate.waiting?`: the state in which a call waits at some place of its lane; `Drop`, a call that is
  dropped.
* `Stream`: a stream that was called; `Stream.act`, a step of its exchange on the shared state.
* `Traffic`: calls and streams side by side; `Traffic.run`, a run of them.
* `Stream.chain`: the call of a stream as its lane sees it.
* `Stream.Follows`: a stream ends as its lane ends that call.
-/

namespace Turnstile

open Exchange (lane account conclude Stepped)

/-! ## Calls that are dropped -/

/-- Where a call waits on its lane: on the way in, in the gate or the handler that it has come to, on
the way out in that gate, or further in. -/
inductive Place where
  | entering
  | leaving
  | within (place : Place)
  deriving DecidableEq, Repr

namespace Gate

variable {σ ν ρ : Type}

/-- Whether a gate waits for the user's code on the way in. -/
def awaits : Gate σ ν ρ → Bool
  | .authentication _ => true
  | .user _ => true
  | _ => false

/-- The state in which a call waits in the user's code at a place of its lane, if it comes there. The
code has begun, and `act` is what it has done by then. `starts` tells for which requests the handler is
started. -/
def waiting? (m : Method) (handler : Request Payload → StateM (Pipeline.State σ ν) (Outcome ρ))
    (starts : Request Payload → Bool) (act : StateM (Own σ ν) Unit) :
    Place → List (Gate σ ν ρ) → Request Payload → Pipeline.State σ ν → Option (Pipeline.State σ ν)
  | .entering, [], r, st => if starts r then some (Pipeline.State.perform act st).2 else none
  | .entering, gate :: _, _, st =>
    if gate.awaits then some (Pipeline.State.perform act st).2 else none
  | .leaving, .user stage :: lane, r, st =>
    match (userLayer stage m).enter r st with
    | (.passed r _, st) => some (Pipeline.State.perform act (run lane m handler r st).2).2
    | (.answered _, _) => none
  | .leaving, _, _, _ => none
  | .within _, [], _, _ => none
  | .within place, gate :: lane, r, st =>
    match (gate.layer m).enter r st with
    | (.passed r _, st) => waiting? m handler starts act place lane r st
    | (.answered _, _) => none

end Gate

namespace Call

variable {σ ν : Type}

/-- The state in which a call waits in the user's code at a place of its lane, if it comes there. One that
sends to its caller waits in a task of its own. -/
def waiting? (p : Pipeline σ ν) (act : StateM (Own σ ν) Unit) (place : Place) :
    Call σ ν → Pipeline.State σ ν → Option (Pipeline.State σ ν)
  | @unary _ _ α _ _ _ m r handler =>
    Gate.waiting? m (Pipeline.centre m (Pipeline.answering handler))
      (fun r => (Message.ofPayload? r.message : Option α).isSome) act place p.unary
      (r.map Message.toPayload)
  | @stream _ _ α _ m r handler =>
    Gate.waiting? m (Pipeline.centre m fun r => Pipeline.State.perform (handler r))
      (fun r => (Message.ofPayload? r.message : Option α).isSome) act place p.stream
      (r.map Message.toPayload)
  | serverStream _ _ _ => fun _ => none

end Call

/-- A call that is dropped where it waits, and what the user's code there has done by then. -/
structure Drop (σ ν : Type) where
  call : Call σ ν
  place : Place
  act : StateM (Own σ ν) Unit

/-- The state that a call leaves that is dropped, if it waits where it is to be: it was timed. -/
def Drop.leave? {σ ν : Type} (p : Pipeline σ ν) (d : Drop σ ν) (st : Pipeline.State σ ν) :
    Option (Pipeline.State σ ν) :=
  (d.call.waiting? p d.act d.place st).map (p.recordTime d.call.method)

/-! ## Streams -/

/-- A stream that was called, with the exchange behind it. `found` is the state from which the way in was
taken, and `left` is how the handler has ended, and in which state. -/
structure Stream (σ ν : Type) where
  {α : Type}
  [message : Message α]
  method : Method
  request : Request α
  handler : Request α → StateM (Own σ ν) Sending
  exchange : Exchange σ ν
  found : Pipeline.State σ ν
  left : Outcome Unit × Pipeline.State σ ν

namespace Stream

attribute [instance] Stream.message

variable {σ ν : Type}

/-- A stream that is about to be called. -/
def opened {α : Type} [Message α] (m : Method) (r : Request α)
    (handler : Request α → StateM (Own σ ν) Sending) (st : Pipeline.State σ ν) : Stream σ ν :=
  ⟨m, r, handler, .start st, st, (.ok (), st)⟩

/-- The exchange as it goes on from a state. The outbox is its own. -/
def resumed (o : Stream σ ν) (st : Pipeline.State σ ν) : Exchange σ ν :=
  { o.exchange with state := { st with outbox := o.exchange.state.outbox } }

/-- The state from which the way in is taken, as a step leaves it noted. -/
def foundBy (o : Stream σ ν) (st : Pipeline.State σ ν) : ExchangeStep → Pipeline.State σ ν
  | .work =>
    match o.exchange.task with
    | .arriving => st
    | _ => o.found
  | _ => o.found

/-- How and in which state the handler has ended, as a step leaves it noted. -/
def leftBy (o : Stream σ ν) (st : Pipeline.State σ ν) :
    ExchangeStep → Outcome Unit × Pipeline.State σ ν
  | .work =>
    match o.exchange.task with
    | .sending (.finish outcome) _ => (outcome, st)
    | _ => o.left
  | _ => o.left

/-- A step of a stream on the shared state, if it can be taken. -/
def act (p : Pipeline σ ν) (o : Stream σ ν) (st : Pipeline.State σ ν) (a : ExchangeStep) :
    Option (Stream σ ν × Pipeline.State σ ν) :=
  let resumed := o.resumed st
  (resumed.act p o.method o.request o.handler a).map fun x =>
    ({ o with
        exchange := x
        found := o.foundBy resumed.state a
        left := o.leftBy resumed.state a },
      { x.state with outbox := st.outbox })

/-- Whether the task of a stream has finished. -/
def isDone (o : Stream σ ν) : Bool :=
  match o.exchange.task with
  | .finished _ => true
  | _ => false

theorem isDone_iff {o : Stream σ ν} :
    o.isDone = true ↔ ∃ outcome, o.exchange.task = .finished outcome := by
  unfold isDone
  cases o.exchange.task <;> simp

/-- All that a step of a stream can do. -/
theorem act_stepped {p : Pipeline σ ν} {o o' : Stream σ ν} {st st' : Pipeline.State σ ν}
    {a : ExchangeStep} (h : o.act p st a = some (o', st')) :
    ∃ x, Stepped p o.method o.request o.handler (o.resumed st) a x
      ∧ o' = { o with
          exchange := x
          found := o.foundBy (o.resumed st).state a
          left := o.leftBy (o.resumed st).state a }
      ∧ st' = { x.state with outbox := st.outbox } := by
  obtain ⟨x, hx, hmade⟩ := Option.map_eq_some_iff.mp h
  obtain ⟨rfl, rfl⟩ := Prod.mk.inj hmade
  exact ⟨x, Exchange.act_stepped hx, rfl, rfl⟩

end Stream

/-! ## Traffic -/

/-- Calls and streams side by side: the state they share, the calls that were made to their end, each with
the state in which it was, those that were dropped, and the streams. -/
structure Traffic (σ ν : Type) where
  state : Pipeline.State σ ν
  calls : List (Call σ ν × Pipeline.State σ ν) := []
  drops : List (Drop σ ν) := []
  streams : List (Stream σ ν) := []

namespace Traffic

variable {σ ν : Type}

/-- What happens in traffic: time passes, a call is made from its beginning to its end, or is dropped
while it waits, a stream is called, or one of the streams takes a step. -/
inductive Event (σ ν : Type) : Type 1 where
  | wait (nanos : Nat)
  | call (k : Call σ ν)
  | drop (d : Drop σ ν)
  | opened {α : Type} [Message α] (m : Method) (r : Request α)
    (handler : Request α → StateM (Own σ ν) Sending)
  | act (i : Nat) (a : ExchangeStep)

/-- The method that an event calls, if it is a call. -/
def Event.method? : Event σ ν → Option Method
  | .call k => some k.method
  | .drop d => some d.call.method
  | @opened _ _ _ _ m _ _ => some m
  | _ => none

/-- Whether an event is a call from its beginning to its end. -/
def Event.isCall : Event σ ν → Bool
  | .call _ => true
  | _ => false

/-- Whether an event is a call that is dropped. -/
def Event.isDrop : Event σ ν → Bool
  | .drop _ => true
  | _ => false

/-- Whether an event is the call of a stream. -/
def Event.isOpened : Event σ ν → Bool
  | @opened _ _ _ _ _ _ _ => true
  | _ => false

/-- What an event does, if it can happen. -/
def step (p : Pipeline σ ν) (t : Traffic σ ν) : Event σ ν → Option (Traffic σ ν)
  | .wait nanos => some { t with state := t.state.advance nanos }
  | .call k =>
    some { t with state := (k.make p t.state).2, calls := t.calls ++ [(k, t.state)] }
  | .drop d =>
    (d.leave? p t.state).map fun st => { t with state := st, drops := t.drops ++ [d] }
  | @Event.opened _ _ _ _ m r handler =>
    some { t with streams := t.streams ++ [.opened m r handler t.state] }
  | .act i a =>
    t.streams[i]?.bind fun o =>
      (o.act p t.state a).map fun (o, st) => { t with state := st, streams := t.streams.set i o }

/-- Some events in their order, if each can happen. -/
def run (p : Pipeline σ ν) (t : Traffic σ ν) : List (Event σ ν) → Option (Traffic σ ν)
  | [] => some t
  | e :: es => (t.step p e).bind fun t => t.run p es

/-- A pipeline before the first call. -/
def start (p : Pipeline σ ν) (user : σ) (minted : Mint := {}) : Traffic σ ν :=
  { state := p.start user minted }

/-- All tasks of streams have finished. -/
def Done (t : Traffic σ ν) : Prop :=
  ∀ o ∈ t.streams, ∃ outcome, o.exchange.task = .finished outcome

theorem done_iff {t : Traffic σ ν} : t.Done ↔ t.streams.all Stream.isDone = true := by
  simp only [Done, List.all_eq_true, Stream.isDone_iff]

/-- All that an event can do. -/
inductive Stepped (p : Pipeline σ ν) (t : Traffic σ ν) : Event σ ν → Traffic σ ν → Prop
  | wait (nanos : Nat) : Stepped p t (.wait nanos) { t with state := t.state.advance nanos }
  | call (k : Call σ ν) :
    Stepped p t (.call k)
      { t with state := (k.make p t.state).2, calls := t.calls ++ [(k, t.state)] }
  | drop {d st} (hd : d.leave? p t.state = some st) :
    Stepped p t (.drop d) { t with state := st, drops := t.drops ++ [d] }
  | opened {α : Type} [Message α] (m : Method) (r : Request α)
      (handler : Request α → StateM (Own σ ν) Sending) :
    Stepped p t (.opened m r handler)
      { t with streams := t.streams ++ [.opened m r handler t.state] }
  | act {i a before o after o' st} (hs : t.streams = before ++ o :: after)
      (ha : o.act p t.state a = some (o', st)) :
    Stepped p t (.act i a) { t with state := st, streams := before ++ o' :: after }

theorem step_stepped {p : Pipeline σ ν} {t t' : Traffic σ ν} {e : Event σ ν}
    (h : t.step p e = some t') : Stepped p t e t' := by
  cases e with
  | wait nanos =>
    obtain rfl := Option.some.inj h
    exact .wait nanos
  | call k =>
    obtain rfl := Option.some.inj h
    exact .call k
  | drop d =>
    obtain ⟨st, hd, rfl⟩ := Option.map_eq_some_iff.mp h
    exact .drop hd
  | opened m r handler =>
    obtain rfl := Option.some.inj h
    exact .opened m r handler
  | act i a =>
    obtain ⟨o, ho, h⟩ := Option.bind_eq_some_iff.mp h
    obtain ⟨⟨o', st⟩, ha, rfl⟩ := Option.map_eq_some_iff.mp h
    obtain ⟨hi, rfl⟩ := List.getElem?_eq_some_iff.mp ho
    have hs : t.streams = t.streams.take i ++ t.streams[i] :: t.streams.drop (i + 1) := by
      rw [← List.drop_eq_getElem_cons hi, List.take_append_drop]
    dsimp only
    rw [List.set_eq_take_append_cons_drop, if_pos hi]
    exact .act hs ha

/-- What every event keeps, every run keeps. -/
theorem run_induction {p : Pipeline σ ν} {P : List (Event σ ν) → Traffic σ ν → Prop}
    (hstep : ∀ {es e t t'}, P es t → Stepped p t e t' → P (es ++ [e]) t') {es : List (Event σ ν)}
    {t t' : Traffic σ ν} (h : P [] t) (ht : t.run p es = some t') : P es t' := by
  have hafter : ∀ {es before : List (Event σ ν)} {t : Traffic σ ν}, P before t →
      t.run p es = some t' → P (before ++ es) t' := by
    intro es
    induction es with
    | nil =>
      intro before t h ht
      obtain rfl := Option.some.inj ht
      rwa [List.append_nil]
    | cons e es ih =>
      intro before t h ht
      obtain ⟨t₁, h₁, hrest⟩ := Option.bind_eq_some_iff.mp ht
      have := ih (hstep h (step_stepped h₁)) hrest
      rwa [List.append_assoc, List.singleton_append] at this
  exact hafter h ht

end Traffic

/-- The event that has called a stream. -/
def Stream.opening {σ ν : Type} (o : Stream σ ν) : Traffic.Event σ ν :=
  .opened o.method o.request o.handler

/-- The calls and streams of some traffic are those that some events have called. -/
structure Traffic.Called {σ ν : Type} (t : Traffic σ ν) (es : List (Traffic.Event σ ν)) : Prop where
  calls : t.calls.map (fun x => .call x.1) = es.filter Event.isCall
  drops : t.drops.map .drop = es.filter Event.isDrop
  streams : t.streams.map Stream.opening = es.filter Event.isOpened

/-- The calls and streams of a run are those that its events have called. -/
theorem Traffic.called {σ ν : Type} {p : Pipeline σ ν} {u : σ} {minted : Mint}
    {es : List (Traffic.Event σ ν)} {t : Traffic σ ν}
    (ht : (Traffic.start p u minted).run p es = some t) : t.Called es := by
  refine Traffic.run_induction (P := fun es t => t.Called es) ?_ ⟨rfl, rfl, rfl⟩ ht
  rintro es e t t' ⟨hcalls, hdrops, hstreams⟩ hs
  constructor <;> rw [List.filter_append]
  · rw [← hcalls]
    cases hs with
    | call k => exact List.map_append
    | wait | drop | opened | act => exact (List.append_nil _).symm
  · rw [← hdrops]
    cases hs with
    | drop hd => exact List.map_append
    | wait | call | opened | act => exact (List.append_nil _).symm
  · rw [← hstreams]
    cases hs with
    | opened m r handler => exact List.map_append
    | wait | call | drop => exact (List.append_nil _).symm
    | act hs ha =>
      obtain ⟨x, -, rfl, -⟩ := Stream.act_stepped ha
      rw [hs]
      simp [Stream.opening, Event.isOpened]

/-! ## What a lane sees -/

namespace Stream

variable {σ ν : Type} {p : Pipeline σ ν} {o o' : Stream σ ν} {st st' : Pipeline.State σ ν}
  {a : ExchangeStep}

/-- The call of a stream as its lane sees it: whatever has gone on while the handler ran, the way out
follows from how and in which state the handler has ended. -/
def chain (p : Pipeline σ ν) (o : Stream σ ν) : Outcome Unit × Pipeline.State σ ν :=
  p.callStream o.method o.request (fun _ _ => o.left) o.found

/-- The task of a stream is where the call of its lane has it. -/
inductive Follows (p : Pipeline σ ν) (o : Stream σ ν) : Prop
  | arriving (ht : o.exchange.task = .arriving)
  | sending {s leave q message st} (ht : o.exchange.task = .sending s leave)
    (he : (lane p o.method).enter (o.request.map Message.toPayload) o.found
      = (.passed q leave, st))
    (hm : (Message.ofPayload? q.message : Option o.α) = some message)
  | ended {outcome} (ht : o.exchange.task = .reporting outcome ∨ o.exchange.task = .finished outcome)
    (hc : (o.chain p).1 = outcome)

theorem follows_opened {α : Type} [Message α] (m : Method) (r : Request α)
    (handler : Request α → StateM (Own σ ν) Sending) (st : Pipeline.State σ ν) :
    (opened m r handler st).Follows p := .arriving rfl

theorem chain_eq (p : Pipeline σ ν) (o : Stream σ ν) :
    o.chain p = account p o.method ((lane p o.method).around
      (Pipeline.centre o.method fun (_ : Request o.α) _ => o.left) (o.request.map Message.toPayload)
      o.found) :=
  Exchange.callStream_eq_account ..

/-- The way in. -/
theorem follows_arrived (p : Pipeline σ ν) (o : Stream σ ν) (st : Pipeline.State σ ν) :
    Stream.Follows p { o with
      exchange := (o.resumed st).arrive p o.method o.request o.handler
      found := (o.resumed st).state } := by
  cases he : (lane p o.method).enter (o.request.map Message.toPayload) (o.resumed st).state with
  | mk entered st₁ =>
    cases entered with
    | answered outcome =>
      have htask : ((o.resumed st).arrive p o.method o.request o.handler).task
          = .reporting outcome := by
        simp only [Exchange.arrive, he]
        rfl
      refine .ended (.inl htask) ?_
      simp only [chain_eq, Layer.around, he]
      rfl
    | passed q leave =>
      cases hm : (Message.ofPayload? q.message : Option o.α) with
      | some message =>
        have hs : ((o.resumed st).arrive p o.method o.request o.handler).task
            = .sending (Pipeline.State.perform (o.handler (q.map fun _ => message)) st₁).1 leave := by
          simp only [Exchange.arrive, he, hm]
          rfl
        exact .sending hs he hm
      | none =>
        have hs : ((o.resumed st).arrive p o.method o.request o.handler).task
            = .reporting (leave (.failed .internal)
              (st₁.report (.requestTypeChanged o.method.fullName))).1 := by
          simp only [Exchange.arrive, he, hm]
          rfl
        refine .ended (.inl hs) ?_
        simp only [chain_eq, Layer.around, he, Pipeline.centre, hm]
        rfl

/-- A step of the caller does not move the task. -/
theorem Follows.turned (h : o.Follows p) {x : Exchange σ ν} (ht : x.task = o.exchange.task) :
    Stream.Follows p { o with exchange := x } := by
  cases h with
  | arriving h => exact .arriving (ht.trans h)
  | sending h he hm => exact .sending (ht.trans h) he hm
  | ended h hc => exact .ended (h.imp ht.trans ht.trans) hc

/-- **A stream follows the call of its lane**, whatever goes on beside it. -/
theorem Follows.acted (h : o.Follows p) (ha : o.act p st a = some (o', st')) : o'.Follows p := by
  obtain ⟨x, hx, rfl, -⟩ := act_stepped ha
  cases hx with
  | arrive ht =>
    have ht : o.exchange.task = .arriving := ht
    simp only [foundBy, leftBy, ht]
    exact follows_arrived p o st
  | taken ht | lost ht =>
    have ht : o.exchange.task = _ := ht
    simp only [foundBy, leftBy, ht]
    cases h with
    | arriving h => cases h.symm.trans ht
    | sending h he hm =>
      cases h.symm.trans ht
      exact .sending rfl he hm
    | ended h => rcases h with h | h <;> cases h.symm.trans ht
  | finish ht =>
    have ht : o.exchange.task = _ := ht
    simp only [foundBy, leftBy, ht]
    cases h with
    | arriving h => cases h.symm.trans ht
    | sending h he hm =>
      cases h.symm.trans ht
      refine .ended (.inl rfl) ?_
      simp only [chain_eq, Layer.around, he, Pipeline.centre, hm]
    | ended h => rcases h with h | h <;> cases h.symm.trans ht
  | report ht | unheard ht | done ht =>
    have ht : o.exchange.task = _ := ht
    simp only [foundBy, leftBy, ht]
    cases h with
    | arriving h => cases h.symm.trans ht
    | sending h he hm => cases h.symm.trans ht
    | ended h hc =>
      rcases h with h | h <;> cases h.symm.trans ht
      exact .ended (.inr rfl) hc
  | hear | miss | read | close | drop => exact h.turned rfl
  | join hr ht =>
    rename_i outcome
    refine h.turned ?_
    cases outcome with
    | panicked payload => rfl
    | returned result => cases result <;> rfl

end Stream

/-- So do all streams, event by event. -/
theorem Traffic.Stepped.follows {σ ν : Type} {p : Pipeline σ ν} {t t' : Traffic σ ν}
    {e : Traffic.Event σ ν} (hs : Traffic.Stepped p t e t') (h : ∀ o ∈ t.streams, o.Follows p) :
    ∀ o ∈ t'.streams, o.Follows p := by
  cases hs with
  | wait | call | drop => exact h
  | opened m r handler =>
    intro o ho
    rcases List.mem_append.mp ho with ho | ho
    · exact h o ho
    · obtain rfl := List.mem_singleton.mp ho
      exact Stream.follows_opened m r handler t.state
  | @act i a before o after o' st hs ha =>
    rw [hs] at h
    simp only [List.forall_mem_append, List.forall_mem_cons] at h ⊢
    obtain ⟨hbefore, ho, hafter⟩ := h
    exact ⟨hbefore, ho.acted ha, hafter⟩

/-- And so do all streams of a run. -/
theorem Traffic.follows {σ ν : Type} {p : Pipeline σ ν} {u : σ} {minted : Mint}
    {es : List (Traffic.Event σ ν)} {t : Traffic σ ν}
    (ht : (Traffic.start p u minted).run p es = some t) :
    ∀ o ∈ t.streams, o.Follows p := by
  refine Traffic.run_induction (P := fun _ t => ∀ o ∈ t.streams, o.Follows p) ?_ ?_ ht
  · intro _ e t t' h hs
    exact hs.follows h
  · intro o ho
    cases ho

end Turnstile
