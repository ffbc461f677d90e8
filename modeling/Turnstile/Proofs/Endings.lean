import Turnstile.Proofs.Containment

/-!
# How a stream ends

A caller that has read a stream to its end, and has met no failure, takes the call to have succeeded. It
has, or there was a panic that nothing caught after the handler had been started: then the task that runs
the lane is gone, the channel is closed behind what was sent, and nobody tells the caller. Recovery turns
every panic into a status, so with recovery the end of a stream can be trusted.

* `Exchange.ReadToEnd`: a caller has read the stream of a call to its end.
* `Exchange.Unsaid`: a call ends its stream in a panic of which the caller learns nothing.
* `Exchange.exists_readToEnd`: the stream of a call that has started its handler can be read to its end.
* `clean_end_of_stream`: what the end of a stream says about the call.
* `clean_end_after_panic`: a stream that ends like a good one after a panic.
-/

namespace Turnstile

namespace Exchange

variable {σ ν α : Type} [Message α] {p : Pipeline σ ν} {m : Method} {r : Request α}
  {handler : Request α → StateM (Own σ ν) Sending} {x x' : Exchange σ ν}
  {called : Outcome Unit × Pipeline.State σ ν}

/-! ## Streams that are read to their end -/

/-- A caller has read the stream of a call to its end. -/
def ReadToEnd (p : Pipeline σ ν) (m : Method) (r : Request α)
    (handler : Request α → StateM (Own σ ν) Sending) (st : Pipeline.State σ ν)
    (x : Exchange σ ν) : Prop :=
  (∃ as, (start st).run p m r handler as = some x) ∧ x.reader = .ended

/-- The call has started its handler, which has sent no failure, and has ended in a panic. -/
def Unsaid (called : Outcome Unit × Pipeline.State σ ν) : Prop :=
  (∃ payload, called.1 = .panicked payload)
    ∧ ∃ items, called.2.outbox = some items ∧ ∀ s, .error s ∉ items

/-- Only a drop takes the caller away. -/
theorem reader_ne_gone {a : ExchangeStep} (hs : Stepped p m r handler x a x') (ha : a ≠ .drop)
    (hr : x.reader ≠ .gone) : x'.reader ≠ .gone := by
  cases hs with
  | arrive ht =>
    rw [(arrive_frame p m r handler x).2.1]
    exact hr
  | taken | lost | finish | report | unheard | done | read => exact hr
  | hear | miss | close => simp
  | drop => exact absurd rfl ha
  | join hj ht =>
    rename_i outcome
    cases outcome with
    | panicked payload => simp [join]
    | returned result => cases result <;> simp [join]

/-- **An exchange can be brought to its end** without the caller dropping the stream. -/
theorem exists_run_over (h : Sound p m r handler called x) (hg : Signalled p m r handler called x)
    (hc : x.Coherent) (hr : x.reader ≠ .gone) :
    ∃ as x', x.run p m r handler as = some x' ∧ x'.Over ∧ x'.reader ≠ .gone := by
  -- every step makes the exchange shorter, and one can be taken until it is over
  induction hw : x.weight p m r handler using Nat.strongRecOn generalizing x with
  | ind n ih =>
    by_cases hover : x.Over
    · exact ⟨[], x, rfl, hover, hr⟩
    · obtain ⟨a, ha, hsome⟩ := progress h hg hc hover
      obtain ⟨y, hy⟩ := Option.isSome_iff_exists.mp hsome
      have hs := act_stepped hy
      have hless : y.weight p m r handler < n := hw ▸ weight_stepped hs
      obtain ⟨as, x', hrun, hover', hr'⟩ := ih _ hless (h.stepped hg hc hs) (hg.stepped hs)
        (hc.stepped hs) (reader_ne_gone hs ha hr) rfl
      refine ⟨a :: as, x', ?_, hover', hr'⟩
      rw [run, hy]
      exact hrun

variable (p m r handler) in
/-- The stream of a call that has started its handler can be read to its end. -/
theorem exists_readToEnd (st : Pipeline.State σ ν)
    (ho : (p.callStream m r (Pipeline.producer (produced handler))
      { st with outbox := none }).2.outbox.isSome) :
    ∃ x, ReadToEnd p m r handler st x := by
  obtain ⟨as, x, hrun, ⟨-, hover⟩, hgone⟩ :=
    exists_run_over (sound_start st : Sound p m r handler _ _) (signalled_start st)
      (coherent_start st) (by simp [start])
  obtain ⟨-, hsound, -⟩ := sound_of_run hrun
  refine ⟨x, ⟨as, hrun⟩, ?_⟩
  rcases hover with hended | ⟨s, hrefused⟩ | hdropped
  · exact hended
  · have hjustified := hsound.justified
    rw [hrefused] at hjustified
    rw [hjustified.1] at ho
    cases ho
  · exact absurd hdropped hgone

/-- What a caller has read at the end: all that the call sends, and the task has come to its end. -/
theorem ReadToEnd.received {st : Pipeline.State σ ν} (h : ReadToEnd p m r handler st x) :
    let called := p.callStream m r (Pipeline.producer (produced handler)) { st with outbox := none }
    x.task = .finished called.1 ∧ x.received = flow called
      ∧ (called.2.outbox.isSome ∨ called.1 = .ok ()) := by
  intro called
  obtain ⟨⟨as, hrun⟩, hended⟩ := h
  obtain ⟨-, hsound, hcoherent⟩ := sound_of_run hrun
  obtain ⟨outcome, htask⟩ := hcoherent.ended hended
  have hresolves := (hsound.heard (by simp [hended, Reader.listens])).resolves
  have hjustified := hsound.justified
  rw [hended] at hjustified
  simp only [resolve, htask] at hresolves
  exact ⟨htask.trans (congrArg (fun c => LaneTask.finished c.1) hresolves), hjustified⟩

/-- All that a failed call sends ends with its status. -/
theorem getLast?_flow_of_failed {s : Status} (hs : called.1 = .failed s) :
    (flow called).getLast? = some (.error s) := by
  rw [flow, hs]
  exact List.getLast?_concat

/-- A call that sends no failure has succeeded or panicked, if it has started its handler. -/
theorem clean_flow (hn : ∀ s, .error s ∉ flow called)
    (ho : called.2.outbox.isSome ∨ called.1 = .ok ()) : called.1 = .ok () ∨ Unsaid called := by
  cases houtcome : called.1 with
  | returned result =>
    cases result with
    | ok _ => exact .inl rfl
    | error s =>
      have hlast := getLast?_flow_of_failed houtcome
      exact absurd (List.mem_of_getLast? hlast) (hn s)
  | panicked payload =>
    rw [houtcome] at ho
    obtain ⟨items, hitems⟩ := Option.isSome_iff_exists.mp (ho.resolve_right (by simp [Outcome.ok]))
    refine .inr ⟨⟨payload, houtcome⟩, items, hitems, ?_⟩
    intro s hs
    refine hn s ?_
    rw [flow, hitems]
    exact List.mem_append_left _ hs

/-- What a call sends that ends in a panic unsaid is no failure. -/
theorem Unsaid.clean (h : Unsaid called) (s : Status) : .error s ∉ flow called := by
  obtain ⟨⟨payload, hpanic⟩, items, hitems, hclean⟩ := h
  rw [flow, hitems, hpanic]
  simpa [Outcome.closing] using hclean s

end Exchange

/-! ## Where a panic gets to the end of a call -/

section

variable {σ ν : Type}

/-- A pipeline built without recovery has none in its streaming lane. -/
theorem unguarded_of_build {os : List (PipelineOption σ ν)} {p : Pipeline σ ν}
    (hp : (({} : Builder σ ν).applyAll os).build = .ok p)
    (hr : os.any PipelineOption.isRecovery = false) :
    ∀ gate ∈ p.stream, gate.isRecovery = false := by
  obtain ⟨g, -, rfl⟩ := Choices.of_build hp
  have hrecovery : (Choices.of os).recovery = false := hr
  intro gate hg
  rcases List.mem_append.mp hg with hg | hg
  · unfold Choices.gates at hg
    rw [hrecovery] at hg
    cases gate with
    | recovery metrics => simp at hg
    | admission | rateLimit | authentication | tagging | span | user => rfl
  · have hdiscreet := (Choices.stages_discreet os).2 gate hg
    cases gate with
    | span | user stage => rfl
    | recovery | admission | rateLimit | authentication | tagging => exact hdiscreet.elim

/-- Without recovery a call ends in a panic exactly if one gets out of its lane, which all do that arise
if the stages let panics by. -/
theorem panicked_of_build {os : List (PipelineOption σ ν)} {p : Pipeline σ ν}
    (hp : (({} : Builder σ ν).applyAll os).build = .ok p)
    (hr : os.any PipelineOption.isRecovery = false) {α : Type} [Message α] (m : Method)
    (r : Request α) (h : Request α → StateM (Pipeline.State σ ν) (Outcome Unit))
    (st : Pipeline.State σ ν) (payload : Option String) :
    ((p.callStream m r h st).1 = .panicked payload
      ↔ Gate.Panics m (Pipeline.centre m h) p.stream (r.map Message.toPayload) st payload)
    ∧ (p.LetsPanicsBy → ((p.callStream m r h st).1 = .panicked payload
      ↔ Gate.PanicArises m (Pipeline.centre m h) p.stream (r.map Message.toPayload) st payload)) := by
  refine ⟨Gate.panics_iff.symm, fun hlets => ?_⟩
  rw [Gate.panicArises_iff (unguarded_of_build hp hr) hlets.stream]
  exact Gate.panics_iff.symm

end

/-! ## The main statement -/

namespace Exchange

variable {σ ν α : Type} [Message α]

/-- **What the end of a stream says.** For every pipeline, request and handler, in every run of the
exchange in which the caller has read the stream to its end:
* the lane has come to its end, and the caller has read all that the handler sent, and the status after
  it if the call failed;
* if the caller has met no failure, the call succeeded or ended in a panic unsaid;
* a call that failed with a status has it as the last item of its stream;
* the end of a stream without a failure always means success exactly if the call does not end in a panic
  unsaid;
* with recovery it does not: a panic that gets out of the rest of the lane makes the last item a
  failure. Without, the call ends in a panic exactly if one gets out of the lane. If the stages let
  panics by, these are all that arise, wherever in the lane. -/
theorem clean_end_of_stream (p : Pipeline σ ν) (m : Method) (r : Request α)
    (handler : Request α → StateM (Own σ ν) Sending) (st : Pipeline.State σ ν) :
    let called := p.callStream m r (Pipeline.producer (produced handler)) { st with outbox := none }
    (∀ x, ReadToEnd p m r handler st x →
        x.task = .finished called.1
        ∧ x.received = called.2.outbox.getD [] ++ called.1.closing
        ∧ ((∀ s, .error s ∉ x.received) → called.1 = .ok () ∨ Unsaid called)
        ∧ ∀ s, called.1 = .failed s → x.received.getLast? = some (.error s))
    ∧ ((∀ x, ReadToEnd p m r handler st x → (∀ s, .error s ∉ x.received) → called.1 = .ok ())
        ↔ ¬Unsaid called)
    ∧ ∀ os : List (PipelineOption σ ν), (({} : Builder σ ν).applyAll os).build = .ok p →
      (os.any PipelineOption.isRecovery = true →
        ¬Unsaid called
        ∧ ∀ payload, ((Call.serverStream m r (produced handler)).tag st).1.Panics p.unguarded
            ((Call.serverStream m r (produced handler)).tag st).2 payload →
          ∀ x, ReadToEnd p m r handler st x → x.received.getLast? = some (.error .internal))
      ∧ (os.any PipelineOption.isRecovery = false →
        ∀ payload, (called.1 = .panicked payload ↔
          Gate.Panics m (Pipeline.centre m (Pipeline.producer (produced handler))) p.stream
            (r.map Message.toPayload) { st with outbox := none } payload)
          ∧ (p.LetsPanicsBy → (called.1 = .panicked payload ↔
            Gate.PanicArises m (Pipeline.centre m (Pipeline.producer (produced handler))) p.stream
              (r.map Message.toPayload) { st with outbox := none } payload)))
      ∧ (p.LetsPanicsBy → ∀ payload,
        ((Call.serverStream m r (produced handler)).tag st).1.PanicArises p.unguarded
            ((Call.serverStream m r (produced handler)).tag st).2 payload
          ↔ ((Call.serverStream m r (produced handler)).tag st).1.Panics p.unguarded
            ((Call.serverStream m r (produced handler)).tag st).2 payload) := by
  intro called
  refine ⟨?_, ⟨?_, ?_⟩, ?_⟩
  · intro x hx
    obtain ⟨htask, hreceived, hstarted⟩ := hx.received
    refine ⟨htask, hreceived, ?_, ?_⟩
    · intro hclean
      rw [hreceived] at hclean
      exact clean_flow hclean hstarted
    · intro s hs
      rw [hreceived]
      exact getLast?_flow_of_failed hs
  · -- a call that ends in a panic unsaid can be read to its end, and nothing shows
    intro htrusted hunsaid
    obtain ⟨x, hx⟩ := exists_readToEnd p m r handler st (by
      obtain ⟨-, items, hitems, -⟩ := hunsaid
      exact Option.isSome_of_eq_some hitems)
    have hok : called.1 = .ok () := by
      refine htrusted x hx ?_
      rw [hx.received.2.1]
      exact hunsaid.clean
    obtain ⟨⟨payload, hpanic⟩, -⟩ := hunsaid
    rw [hok] at hpanic
    cases hpanic
  · intro hunsaid x hx hclean
    obtain ⟨-, hreceived, hstarted⟩ := hx.received
    rw [hreceived] at hclean
    exact (clean_flow hclean hstarted).resolve_right hunsaid
  · intro os hp
    refine ⟨?_, fun hr payload => panicked_of_build hp hr m r _ _ payload,
      fun hlets => Call.panicArises_iff hlets _ _⟩
    intro hr
    refine ⟨?_, ?_⟩
    · rintro ⟨⟨payload, hpanic⟩, -⟩
      obtain ⟨result, hreturned⟩ := returned_of_recovery hp hr
        (Pipeline.producer (produced handler)) { st with outbox := none } (m := m) (r := r)
      cases hpanic.symm.trans hreturned
    · intro payload hpanics x hx
      obtain ⟨hguarded, -⟩ := guarded_of_build hp hr
      have hfailed := ((Call.stream_recovered hguarded m r (produced handler) st).panicked payload
        hpanics).1
      rw [hx.received.2.1]
      exact getLast?_flow_of_failed hfailed

/-- A handler that sends an item and then panics, under recovery: the last item that is read is the status
of the panic. -/
theorem clean_end_of_stream_recovered :
    let p : Pipeline Unit Unit := (Choices.of [.recovery]).pipeline none
    let watch : Request String := { message := "watch" }
    let handler : Request String → StateM (Own Unit Unit) Sending := fun _ =>
      pure (.send (.ok (.number 7)) fun _ => .finish (.panicked (some "boom")))
    (({} : Builder Unit Unit).applyAll [.recovery]).build = .ok p
      ∧ ∃ x, ReadToEnd p (.stream "/S/Watch") watch handler { user := () } x
        ∧ x.received = [.ok (.number 7), .error .internal]
        ∧ x.received.getLast? = some (.error .internal) := by
  intro p watch handler
  have hp : (({} : Builder Unit Unit).applyAll [.recovery]).build = .ok p := by
    rw [Choices.applyAll_eq, Choices.build_builder]
    rfl
  have hfinal : ((start { user := () }).run p (.stream "/S/Watch") watch handler
      [.work, .work, .work, .work, .learn, .read, .read, .close]).map
        (fun x => (x.reader, x.received))
          = some (.ended, [.ok (.number 7), .error .internal]) := rfl
  obtain ⟨x, hx, hparts⟩ := Option.map_eq_some_iff.mp hfinal
  obtain ⟨hreader, hreceived⟩ := Prod.mk.inj hparts
  have hread : ReadToEnd p (.stream "/S/Watch") watch handler { user := () } x :=
    ⟨⟨_, hx⟩, hreader⟩
  obtain ⟨-, -, hbuilt⟩ :=
    clean_end_of_stream p (.stream "/S/Watch") watch handler { user := () }
  obtain ⟨-, hlast⟩ := (hbuilt [.recovery] hp).1 rfl
  exact ⟨hp, x, hread, hreceived, hlast (some "boom") (.within rfl (.handler rfl) rfl) x hread⟩

/-- The same handler without recovery: the caller reads the item and then the end, as if the call had
succeeded. -/
theorem clean_end_after_panic :
    let p : Pipeline Unit Unit := (Choices.of []).pipeline none
    let watch : Request String := { message := "watch" }
    let handler : Request String → StateM (Own Unit Unit) Sending := fun _ =>
      pure (.send (.ok (.number 7)) fun _ => .finish (.panicked (some "boom")))
    (({} : Builder Unit Unit).applyAll []).build = .ok p
      ∧ (∃ x, ReadToEnd p (.stream "/S/Watch") watch handler { user := () } x
        ∧ x.received = [.ok (.number 7)] ∧ x.task = .finished (.panicked (some "boom")))
      ∧ ¬∀ x, ReadToEnd p (.stream "/S/Watch") watch handler { user := () } x →
          (∀ s, .error s ∉ x.received) → x.task = .finished (.ok ()) := by
  intro p watch handler
  have hp : (({} : Builder Unit Unit).applyAll []).build = .ok p := by
    rw [Choices.applyAll_eq, Choices.build_builder]
    rfl
  have hfinal : ((start { user := () }).run p (.stream "/S/Watch") watch handler
      [.work, .work, .work, .work, .learn, .read, .close]).map
        (fun x => (x.reader, x.received, x.task))
          = some (.ended, [.ok (.number 7)], .finished (.panicked (some "boom"))) := rfl
  obtain ⟨x, hx, hparts⟩ := Option.map_eq_some_iff.mp hfinal
  obtain ⟨hreader, hrest⟩ := Prod.mk.inj hparts
  obtain ⟨hreceived, htask⟩ := Prod.mk.inj hrest
  have hread : ReadToEnd p (.stream "/S/Watch") watch handler { user := () } x :=
    ⟨⟨_, hx⟩, hreader⟩
  refine ⟨hp, ⟨x, hread, hreceived, htask⟩, ?_⟩
  intro htrusted
  have hok := htrusted x hread (by simp [hreceived])
  rw [htask] at hok
  cases hok

end Exchange

end Turnstile
