import Turnstile.Proofs.Exchange
import Turnstile.Proofs.Precedence

/-!
# A stream delivers what was sent

However the task of a stream and its caller take turns, the caller reads what the handler has sent, in
its order, and after it the status with which the call failed, if it did. If the handler was never
started, the caller gets the status of the call and no item.

* `Exchange.Coherent`, `Exchange.Signalled`, `Exchange.Sound`: what holds in every state of an exchange.
* `Exchange.progress`: an exchange that is not over can take a step.
* `Exchange.weight`: every step makes the exchange shorter.
* `stream_delivers`: what a run delivers.
-/

namespace Turnstile.Exchange

variable {σ ν α : Type} [Message α] {p : Pipeline σ ν} {m : Method} {r : Request α}
  {handler : Request α → StateM (Own σ ν) Sending} {x x' : Exchange σ ν}

/-! ## How the parts of an exchange go together -/

/-- The parts of an exchange go together. -/
structure Coherent (x : Exchange σ ν) : Prop where
  pending : x.signal = .pending ↔ x.task = .arriving
  sending : ∀ {s leave}, x.task = .sending s leave → x.signal = .started
  joining : x.reader = .joining → x.signal = .dropped
  reading : x.reader = .reading → x.signal ≠ .pending
  ended : x.reader = .ended → ∃ outcome, x.task = .finished outcome
  room : x.queue.length ≤ room

theorem coherent_start (st : Pipeline.State σ ν) : (start st).Coherent := by
  constructor
  · exact ⟨fun _ => rfl, fun _ => rfl⟩
  · intro s leave h
    cases h
  · intro h
    cases h
  · intro h
    cases h
  · intro h
    cases h
  · exact Nat.zero_le _

variable (p m r handler) in
/-- The way in does not touch what the caller sees. -/
theorem arrive_frame (x : Exchange σ ν) :
    (x.arrive p m r handler).queue = x.queue
      ∧ (x.arrive p m r handler).reader = x.reader
      ∧ (x.arrive p m r handler).received = x.received := by
  unfold arrive
  cases (lane p m).enter (r.map Message.toPayload) x.state with
  | mk entered st =>
    cases entered with
    | answered outcome => exact ⟨rfl, rfl, rfl⟩
    | passed q leave =>
      dsimp only
      cases (Message.ofPayload? q.message : Option α) <;> exact ⟨rfl, rfl, rfl⟩

variable (p m r handler) in
/-- After the way in the handler is started, or the lane has ended without it. -/
theorem arrive_task (x : Exchange σ ν) :
    (∃ s leave, (x.arrive p m r handler).task = .sending s leave
        ∧ (x.arrive p m r handler).signal = .started)
      ∨ ∃ outcome, (x.arrive p m r handler).task = .reporting outcome
        ∧ (x.arrive p m r handler).signal = .dropped := by
  unfold arrive
  cases (lane p m).enter (r.map Message.toPayload) x.state with
  | mk entered st =>
    cases entered with
    | answered outcome => exact .inr ⟨_, rfl, rfl⟩
    | passed q leave =>
      dsimp only
      cases (Message.ofPayload? q.message : Option α) with
      | some a => exact .inl ⟨_, _, rfl, rfl⟩
      | none => exact .inr ⟨_, rfl, rfl⟩

variable (p m r handler) in
theorem arrive_task_ne (x : Exchange σ ν) : (x.arrive p m r handler).task ≠ .arriving := by
  rcases arrive_task p m r handler x with ⟨s, leave, hs, -⟩ | ⟨outcome, ho, -⟩
  · simp [hs]
  · simp [ho]

/-- A step of the task, once it has arrived and before it has finished. -/
theorem Coherent.moved (h : x.Coherent) (hn : ∀ outcome, x.task ≠ .finished outcome)
    (ha : x.task ≠ .arriving) {t : LaneTask σ ν} (ht : t ≠ .arriving)
    (hs : ∀ {s leave}, t = .sending s leave → x.signal = .started)
    {q : List (Except Status Payload)} (hq : q.length ≤ Exchange.room) (st : Pipeline.State σ ν) :
    { x with task := t, queue := q, state := st }.Coherent := by
  constructor
  · constructor
    · intro hp
      exact absurd (h.pending.mp hp) ha
    · intro hp
      exact absurd hp ht
  · exact hs
  · exact h.joining
  · exact h.reading
  · intro he
    obtain ⟨outcome, hf⟩ := h.ended he
    exact absurd hf (hn outcome)
  · exact hq

/-- A step of the caller. -/
theorem Coherent.turned (h : x.Coherent) (reader : Reader) (q : List (Except Status Payload))
    (hj : reader = .joining → x.signal = .dropped) (hr : reader = .reading → x.signal ≠ .pending)
    (he : reader = .ended → ∃ outcome, x.task = .finished outcome)
    (hq : q.length ≤ Exchange.room) (received : List (Except Status Payload))
    (st : Pipeline.State σ ν) :
    { x with reader, queue := q, received, state := st }.Coherent :=
  ⟨h.pending, h.sending, hj, hr, he, hq⟩

variable (p m r handler) in
/-- The way in. -/
theorem Coherent.arrived (h : x.Coherent) (ht : x.task = .arriving) :
    (x.arrive p m r handler).Coherent := by
  obtain ⟨hq, hr, -⟩ := arrive_frame p m r handler x
  have hpending : x.signal = .pending := h.pending.mpr ht
  have hnone : x.reader ≠ .joining ∧ x.reader ≠ .reading ∧ x.reader ≠ .ended := by
    refine ⟨?_, fun hg => h.reading hg hpending, ?_⟩
    · intro hj
      rw [h.joining hj] at hpending
      cases hpending
    · intro he
      obtain ⟨outcome, hf⟩ := h.ended he
      rw [ht] at hf
      cases hf
  constructor
  · rcases arrive_task p m r handler x with ⟨s, leave, hs, hg⟩ | ⟨outcome, ho, hg⟩
    · simp [hs, hg]
    · simp [ho, hg]
  · intro s leave hs
    rcases arrive_task p m r handler x with ⟨-, -, -, hg⟩ | ⟨outcome, ho, -⟩
    · exact hg
    · rw [ho] at hs
      cases hs
  · exact fun hj => absurd (hr ▸ hj) hnone.1
  · exact fun hg => absurd (hr ▸ hg) hnone.2.1
  · exact fun he => absurd (hr ▸ he) hnone.2.2
  · exact hq ▸ h.room

theorem Coherent.stepped (h : x.Coherent) {a : ExchangeStep}
    (hs : Stepped p m r handler x a x') : x'.Coherent := by
  have hroom : ∀ item : Except Status Payload, x.queue.length < Exchange.room →
      (x.queue ++ [item]).length ≤ Exchange.room := by
    intro item hq
    rw [List.length_append]
    exact hq
  cases hs with
  | arrive ht => exact h.arrived p m r handler ht
  | taken ht hl hq =>
    exact h.moved (by simp [ht]) (by simp [ht]) (by simp) (fun _ => h.sending ht) (hroom _ hq) _
  | lost ht hl =>
    exact h.moved (by simp [ht]) (by simp [ht]) (by simp) (fun _ => h.sending ht) h.room _
  | finish ht => exact h.moved (by simp [ht]) (by simp [ht]) (by simp) (by simp) h.room _
  | report ht hl hq =>
    exact h.moved (by simp [ht]) (by simp [ht]) (by simp) (by simp) (hroom _ hq) _
  | unheard ht hl => exact h.moved (by simp [ht]) (by simp [ht]) (by simp) (by simp) h.room _
  | done ht hc => exact h.moved (by simp [ht]) (by simp [ht]) (by simp) (by simp) h.room _
  | hear hr hs =>
    exact h.turned .reading x.queue (by simp) (by simp [hs]) (by simp) h.room _ _
  | miss hr hs =>
    exact h.turned .joining x.queue (fun _ => hs) (by simp) (by simp) h.room _ _
  | join hr ht =>
    have hdropped := h.joining hr
    rename_i outcome
    cases outcome with
    | panicked payload =>
      exact h.turned (.refused .internal) [] (by simp) (by simp) (by simp) (Nat.zero_le _) _ _
    | returned result =>
      cases result with
      | ok _ =>
        exact h.turned .reading x.queue (by simp) (by simp [hdropped]) (by simp) h.room _ _
      | error s =>
        exact h.turned (.refused s) [] (by simp) (by simp) (by simp) (Nat.zero_le _) _ _
  | read hr hq =>
    have hrest := h.room
    rw [hq] at hrest
    refine h.turned x.reader _ ?_ (fun _ => h.reading hr) ?_
      (Nat.le_of_succ_le hrest) _ _
    · intro hj
      rw [hr] at hj
      cases hj
    · intro he
      rw [hr] at he
      cases he
  | close hr hq ht =>
    exact h.turned .ended x.queue (by simp) (by simp) (fun _ => ⟨_, ht⟩) h.room _ _
  | drop hr => exact h.turned .gone [] (by simp) (by simp) (by simp) (Nat.zero_le _) _ _

/-! ## What an exchange has to do with its call -/

/-- The signal is what the call comes to, whether or not the caller listens. -/
structure Signalled (p : Pipeline σ ν) (m : Method) (r : Request α)
    (handler : Request α → StateM (Own σ ν) Sending) (called : Outcome Unit × Pipeline.State σ ν)
    (x : Exchange σ ν) : Prop where
  arriving : x.task = .arriving →
    p.callStream m r (Pipeline.producer (produced handler)) x.state = called ∧ x.state.outbox = none
  started : x.signal = .started → called.2.outbox.isSome
  dropped : x.signal = .dropped → called.2.outbox = none

/-- While the caller listens, the task is on its way to the end that the call has, and what has been
read, what is in the channel and what is still to come is what the call sends. -/
structure Heard (p : Pipeline σ ν) (m : Method) (r : Request α)
    (handler : Request α → StateM (Own σ ν) Sending) (called : Outcome Unit × Pipeline.State σ ν)
    (x : Exchange σ ν) : Prop where
  resolves : x.resolve p m r handler = called
  conserved : x.received ++ (x.queue ++ x.forthcoming p m r handler) = flow called

/-- What the caller knows makes no difference to the task. -/
theorem Heard.turned {called : Outcome Unit × Pipeline.State σ ν} (h : Heard p m r handler called x)
    (reader : Reader) : Heard p m r handler called { x with reader } :=
  ⟨h.resolves, h.conserved⟩

/-- What a caller has learned is what the call has come to. -/
def Justified (called : Outcome Unit × Pipeline.State σ ν)
    (received : List (Except Status Payload)) : Reader → Prop
  | .reading => called.2.outbox.isSome ∨ called.1 = .ok ()
  | .ended => received = flow called ∧ (called.2.outbox.isSome ∨ called.1 = .ok ())
  | .refused s => called.2.outbox = none
      ∧ ∀ m st, (Pipeline.delivered m none called.1 (st : Pipeline.State σ ν)).1 = .error s
  | _ => True

/-- What holds in every state of an exchange, by what its call comes to. -/
structure Sound (p : Pipeline σ ν) (m : Method) (r : Request α)
    (handler : Request α → StateM (Own σ ν) Sending) (called : Outcome Unit × Pipeline.State σ ν)
    (x : Exchange σ ν) : Prop where
  heard : x.reader.listens = true → Heard p m r handler called x
  received : x.received <+: flow called
  unstarted : called.2.outbox = none → x.received = []
  justified : Justified called x.received x.reader

variable {called : Outcome Unit × Pipeline.State σ ν}

theorem signalled_start (st : Pipeline.State σ ν) :
    Signalled p m r handler
      (p.callStream m r (Pipeline.producer (produced handler)) { st with outbox := none })
      (start st) := by
  refine ⟨fun _ => ⟨rfl, rfl⟩, ?_, ?_⟩
  · intro h
    cases h
  · intro h
    cases h

theorem sound_start (st : Pipeline.State σ ν) :
    Sound p m r handler
      (p.callStream m r (Pipeline.producer (produced handler)) { st with outbox := none })
      (start st) :=
  ⟨fun _ => ⟨rfl, rfl⟩, List.nil_prefix, fun _ => rfl, trivial⟩

/-- The way in gives the signal, and no other step changes it. -/
theorem Signalled.stepped (h : Signalled p m r handler called x) {a : ExchangeStep}
    (hs : Stepped p m r handler x a x') : Signalled p m r handler called x' := by
  cases hs with
  | arrive ht =>
    obtain ⟨hcalled, hout⟩ := h.arriving ht
    obtain ⟨-, -, hsignal⟩ := arrive_settles p m r handler hout
    rw [hcalled] at hsignal
    refine ⟨fun ha => absurd ha (arrive_task_ne p m r handler x), ?_, ?_⟩
    · intro hg
      rcases hsignal with ⟨-, r', own, hsome⟩ | ⟨hd, -⟩
      · rw [hsome]
        rfl
      · rw [hg] at hd
        cases hd
    · intro hg
      rcases hsignal with ⟨hs, -⟩ | ⟨-, hnone⟩
      · rw [hg] at hs
        cases hs
      · exact hnone
  | taken | lost | finish | report | unheard | done =>
    exact ⟨(fun ha => by cases ha), h.started, h.dropped⟩
  | hear | miss | read | close | drop => exact ⟨h.arriving, h.started, h.dropped⟩
  | join hr ht =>
    rename_i outcome
    cases outcome with
    | panicked payload =>
      exact ⟨fun ha => absurd (ht.symm.trans ha) (by simp), h.started, h.dropped⟩
    | returned result => cases result <;> exact ⟨h.arriving, h.started, h.dropped⟩

theorem outbox_snoc {β : Type} (o : Option (List β)) (item : β) (items : List β) :
    (o.map (· ++ [item])).map (· ++ items) = o.map (· ++ item :: items) := by
  cases o <;> simp

/-- The task, while the caller listens: it stays on its way, and what it sends goes into the
channel. -/
theorem Heard.worked (h : Heard p m r handler called x) (hg : Signalled p m r handler called x)
    (hl : x.reader.listens = true) (hs : Stepped p m r handler x .work x') :
    Heard p m r handler called x' := by
  have hres := h.resolves
  have hcons := h.conserved
  cases hs with
  | arrive ht =>
    obtain ⟨hq, -, hrec⟩ := arrive_frame p m r handler x
    obtain ⟨hcalled, hout⟩ := hg.arriving ht
    obtain ⟨hresolve, hforth, -⟩ := arrive_settles p m r handler hout
    have hall : x.forthcoming p m r handler = flow called := by
      simp only [forthcoming, ht, hres]
    rw [hcalled] at hresolve hforth
    refine ⟨hresolve, ?_⟩
    rw [hrec, hq, hforth, ← hall, hcons, hall]
  | taken ht hl hq =>
    rename_i item next leave
    have hresolve : Exchange.resolve p m r handler
        { x with
          queue := x.queue ++ [item]
          task := .sending (next true) leave
          state := { x.state with outbox := x.state.outbox.map (· ++ [item]) } } = called := by
      rw [← hres]
      simp only [resolve, ht, Sending.production, outbox_snoc]
    refine ⟨hresolve, ?_⟩
    rw [← hcons]
    simp only [forthcoming, ht, hresolve, hres, Sending.production]
    simp
  | lost ht hgone =>
    rw [hl] at hgone
    cases hgone
  | finish ht =>
    rename_i outcome leave
    have hempty : x.state.outbox.map (· ++ []) = x.state.outbox := by
      cases x.state.outbox <;> simp
    have hended : account p m (leave outcome x.state) = called := by
      rw [← hres]
      simp only [resolve, ht, Sending.production, hempty]
    refine ⟨hended, ?_⟩
    rw [← hcons]
    simp only [forthcoming, ht, hres, conclude, hended, Sending.production, List.nil_append]
  | report ht hl hq =>
    rename_i s
    simp only [resolve, ht] at hres
    refine ⟨hres, ?_⟩
    rw [← hcons]
    simp only [forthcoming, ht, Outcome.closing, List.append_nil]
  | unheard ht hgone =>
    rw [hl] at hgone
    cases hgone
  | done ht hc =>
    simp only [resolve, ht] at hres
    refine ⟨hres, ?_⟩
    rw [← hcons]
    simp only [forthcoming, ht, hc]

/-- The task does not touch what the caller has. -/
theorem work_frame (hs : Stepped p m r handler x .work x') :
    x'.reader = x.reader ∧ x'.received = x.received := by
  cases hs with
  | arrive ht => exact (arrive_frame p m r handler x).2
  | taken | lost | finish | report | unheard | done => exact ⟨rfl, rfl⟩

theorem flow_of_unstarted {called : Outcome Unit × Pipeline.State σ ν} (hn : called.2.outbox = none)
    (ho : called.1 = .ok ()) : flow called = [] := by
  rw [flow, hn, ho]
  rfl

/-- A caller that waits for the task to end learns what the call has come to. -/
theorem Sound.joined (h : Sound p m r handler called x) (hg : Signalled p m r handler called x)
    (hc : x.Coherent) {outcome : Outcome Unit} (hr : x.reader = .joining)
    (ht : x.task = .finished outcome) : Sound p m r handler called (x.join m outcome) := by
  have hh := h.heard (by simp [hr, Reader.listens])
  have hnone := hg.dropped (hc.joining hr)
  have hcalled : called.1 = outcome := by
    rw [← hh.resolves]
    simp only [resolve, ht]
  cases outcome with
  | panicked payload =>
    refine ⟨(fun hl => by cases hl), h.received, h.unstarted, hnone, ?_⟩
    intro m st
    rw [hcalled]
    rfl
  | returned result =>
    cases result with
    | ok _ =>
      exact ⟨fun _ => hh.turned _, h.received, h.unstarted, .inr hcalled⟩
    | error s =>
      refine ⟨(fun hl => by cases hl), h.received, h.unstarted, hnone, ?_⟩
      intro m st
      rw [hcalled]
      rfl

/-- An item that is read is the next one of what the call sends. -/
theorem Sound.readNext (h : Sound p m r handler called x) {item : Except Status Payload}
    {rest : List (Except Status Payload)} (hr : x.reader = .reading) (hq : x.queue = item :: rest) :
    Sound p m r handler called { x with queue := rest, received := x.received ++ [item] } := by
  have hh := h.heard (by simp [hr, Reader.listens])
  have hconserved : (x.received ++ [item]) ++ (rest ++ x.forthcoming p m r handler) = flow called := by
    rw [← hh.conserved, hq]
    simp
  have hprefix : x.received ++ [item] <+: flow called := ⟨_, hconserved⟩
  have hjustified : called.2.outbox.isSome ∨ called.1 = .ok () := by
    have hj := h.justified
    rw [hr] at hj
    exact hj
  refine ⟨fun _ => ⟨hh.resolves, hconserved⟩, hprefix, ?_, ?_⟩
  · intro hn
    rcases hjustified with hs | ho
    · rw [hn] at hs
      cases hs
    · rw [flow_of_unstarted hn ho] at hprefix
      simp at hprefix
  · rw [hr]
    exact hjustified

theorem Sound.stepped (h : Sound p m r handler called x) (hg : Signalled p m r handler called x)
    (hc : x.Coherent) {a : ExchangeStep} (hs : Stepped p m r handler x a x') :
    Sound p m r handler called x' := by
  cases a with
  | work =>
    obtain ⟨hr, hrec⟩ := work_frame hs
    refine ⟨?_, hrec ▸ h.received, fun hn => hrec ▸ h.unstarted hn, ?_⟩
    · intro hl
      rw [hr] at hl
      exact (h.heard hl).worked hg hl hs
    · rw [hr, hrec]
      exact h.justified
  | learn =>
    cases hs with
    | hear hr hs =>
      have hh := h.heard (by simp [hr, Reader.listens])
      exact ⟨fun _ => hh.turned _, h.received, h.unstarted, .inl (hg.started hs)⟩
    | miss hr hs =>
      have hh := h.heard (by simp [hr, Reader.listens])
      exact ⟨fun _ => hh.turned _, h.received, h.unstarted, trivial⟩
    | join hr ht => exact h.joined hg hc hr ht
  | read =>
    cases hs with
    | read hr hq => exact h.readNext hr hq
  | close =>
    cases hs with
    | close hr hq ht =>
      have hh := h.heard (by simp [hr, Reader.listens])
      have hj := h.justified
      rw [hr] at hj
      have hall : x.received = flow called := by
        rw [← hh.conserved, hq]
        simp [forthcoming, ht]
      exact ⟨fun _ => hh.turned _, h.received, h.unstarted, hall, hj⟩
  | drop =>
    cases hs with
    | drop hr => exact ⟨(fun hl => by cases hl), h.received, h.unstarted, trivial⟩

/-! ## Steps that can be taken -/

/-- An exchange is over once the task has finished and the caller has seen the end, was refused, or has
dropped the stream. -/
def Over (x : Exchange σ ν) : Prop :=
  (∃ outcome, x.task = .finished outcome)
    ∧ (x.reader = .ended ∨ (∃ s, x.reader = .refused s) ∨ x.reader = .gone)

/-- The task can be held up only by a full channel. -/
theorem work_eq_none (h : x.work p m r handler = none) :
    (∃ outcome, x.task = .finished outcome)
      ∨ (x.reader.listens = true ∧ room ≤ x.queue.length
        ∧ ((∃ s leave, x.task = .sending s leave) ∨ ∃ outcome, x.task = .reporting outcome)) := by
  unfold work at h
  cases ht : x.task with
  | arriving =>
    rw [ht] at h
    cases h
  | finished outcome => exact .inl ⟨outcome, rfl⟩
  | sending s leave =>
    cases s with
    | finish outcome =>
      rw [ht] at h
      cases h
    | send item next =>
      rw [ht] at h
      obtain ⟨hl, hq⟩ := push_eq_none (Option.map_eq_none_iff.mp h)
      exact .inr ⟨hl, hq, .inl ⟨_, _, rfl⟩⟩
  | reporting outcome =>
    cases outcome with
    | panicked payload =>
      rw [ht] at h
      cases h
    | returned result =>
      cases result with
      | ok _ =>
        rw [ht] at h
        cases h
      | error s =>
        rw [ht] at h
        obtain ⟨hl, hq⟩ := push_eq_none (Option.map_eq_none_iff.mp h)
        exact .inr ⟨hl, hq, .inr ⟨_, rfl⟩⟩

/-- A caller that waits can learn how the call went, once the way in has been taken. -/
theorem learn_of_waiting (hc : x.Coherent) (hr : x.reader = .waiting) (ht : x.task ≠ .arriving) :
    (x.act p m r handler .learn).isSome := by
  cases hs : x.signal with
  | pending => exact absurd (hc.pending.mp hs) ht
  | started => simp [act, hr, hs]
  | dropped => simp [act, hr, hs]

/-- Where the handler is not started, nothing is in the channel before the status is reported. -/
theorem Heard.queue_eq_nil (h : Heard p m r handler called x) (hn : called.2.outbox = none)
    {outcome : Outcome Unit} (ht : x.task = .reporting outcome) : x.queue = [] := by
  have hcons := h.conserved
  have hcalled : called.1 = outcome := by
    rw [← h.resolves]
    simp only [resolve, ht]
  rw [flow, hn, hcalled] at hcons
  simp only [forthcoming, ht, Option.getD_none, List.nil_append] at hcons
  have hlength := congrArg List.length hcons
  simp only [List.length_append] at hlength
  exact List.eq_nil_of_length_eq_zero (by omega)

/-- **An exchange does not get stuck**: unless it is over, it goes on without the caller dropping the
stream. -/
theorem progress (h : Sound p m r handler called x) (hg : Signalled p m r handler called x)
    (hc : x.Coherent) (hover : ¬x.Over) : ∃ a, a ≠ .drop ∧ (x.act p m r handler a).isSome := by
  cases hw : x.work p m r handler with
  | some x' => exact ⟨.work, by decide, by simp [act, hw]⟩
  | none =>
    rcases work_eq_none hw with ⟨outcome, ht⟩ | ⟨hl, hq, hbusy⟩
    · -- only the caller is left
      cases hr : x.reader with
      | waiting => exact ⟨.learn, by decide, learn_of_waiting hc hr (by simp [ht])⟩
      | joining => exact ⟨.learn, by decide, by simp [act, hr, ht]⟩
      | reading =>
        cases hq : x.queue with
        | nil => exact ⟨.close, by decide, by simp [act, hr, hq, ht]⟩
        | cons item rest => exact ⟨.read, by decide, by simp [act, hr, hq]⟩
      | ended => exact absurd ⟨⟨outcome, ht⟩, .inl hr⟩ hover
      | refused s => exact absurd ⟨⟨outcome, ht⟩, .inr (.inl ⟨s, hr⟩)⟩ hover
      | gone => exact absurd ⟨⟨outcome, ht⟩, .inr (.inr hr)⟩ hover
    · -- the channel is full, and the caller can make room
      have hbusy' : x.task ≠ .arriving ∧ ∀ outcome, x.task ≠ .finished outcome := by
        rcases hbusy with ⟨s, leave, ht⟩ | ⟨outcome, ht⟩ <;> simp [ht]
      cases hr : x.reader with
      | waiting => exact ⟨.learn, by decide, learn_of_waiting hc hr hbusy'.1⟩
      | joining =>
        have hd := hc.joining hr
        rcases hbusy with ⟨s, leave, ht⟩ | ⟨outcome, ht⟩
        · rw [hc.sending ht] at hd
          cases hd
        · rw [(h.heard hl).queue_eq_nil (hg.dropped hd) ht] at hq
          exact absurd hq (by decide)
      | reading =>
        cases hi : x.queue with
        | nil =>
          rw [hi] at hq
          exact absurd hq (by decide)
        | cons item rest => exact ⟨.read, by decide, by simp [act, hr, hi]⟩
      | ended =>
        obtain ⟨outcome, hf⟩ := hc.ended hr
        exact absurd hf (hbusy'.2 outcome)
      | refused s =>
        rw [hr] at hl
        cases hl
      | gone =>
        rw [hr] at hl
        cases hl

/-! ## Every step counts -/

/-- A bound on the steps of a task and on the reads of what it sends, once it has arrived. -/
def taskWeight : LaneTask σ ν → Nat
  | .arriving => 0
  | .sending s _ => s.weight
  | .reporting _ => 2
  | .finished _ => 0

/-- A bound on what a caller has still to learn. -/
def readerWeight : Reader → Nat
  | .waiting => 3
  | .joining => 2
  | .reading => 1
  | _ => 0

/-- A bound on the steps of an exchange. Before the way in is taken it is read off the task that comes
of it. -/
def weight (p : Pipeline σ ν) (m : Method) (r : Request α)
    (handler : Request α → StateM (Own σ ν) Sending) (x : Exchange σ ν) : Nat :=
  (match x.task with
    | .arriving => taskWeight (x.arrive p m r handler).task + 1
    | task => taskWeight task) + x.queue.length + readerWeight x.reader

theorem weight_of_arrived (ht : x.task ≠ .arriving) :
    x.weight p m r handler = taskWeight x.task + x.queue.length + readerWeight x.reader := by
  unfold weight
  cases h : x.task with
  | arriving => exact absurd h ht
  | sending | reporting | finished => rfl

/-- The way in does not depend on what the caller does. -/
theorem arrive_task_congr {y : Exchange σ ν} (hst : y.state = x.state) :
    (y.arrive p m r handler).task = (x.arrive p m r handler).task := by
  unfold arrive
  rw [hst]
  cases (lane p m).enter (r.map Message.toPayload) x.state with
  | mk entered st =>
    cases entered with
    | answered outcome => rfl
    | passed q leave =>
      dsimp only
      cases (Message.ofPayload? q.message : Option α) <;> rfl

/-- A step of the caller weighs what it takes off the caller and the channel. -/
theorem weight_of_caller {y : Exchange σ ν} (ht : y.task = x.task) (hst : y.state = x.state)
    (hless : y.queue.length + readerWeight y.reader < x.queue.length + readerWeight x.reader) :
    y.weight p m r handler < x.weight p m r handler := by
  unfold weight
  rw [ht, arrive_task_congr hst]
  split <;> omega

/-- **Every step makes an exchange shorter.** -/
theorem weight_stepped {a : ExchangeStep} (hs : Stepped p m r handler x a x') :
    x'.weight p m r handler < x.weight p m r handler := by
  cases hs with
  | arrive ht =>
    obtain ⟨hq, hr, -⟩ := arrive_frame p m r handler x
    rw [weight_of_arrived (arrive_task_ne p m r handler x), hq, hr]
    simp only [weight, ht]
    omega
  | taken ht hl hq =>
    rw [weight_of_arrived (by simp), weight_of_arrived (by simp [ht])]
    simp only [ht, taskWeight, Sending.weight, List.length_append, List.length_cons,
      List.length_nil]
    omega
  | lost ht hl =>
    rw [weight_of_arrived (by simp), weight_of_arrived (by simp [ht])]
    simp only [ht, taskWeight, Sending.weight]
    omega
  | finish ht =>
    rw [weight_of_arrived (by simp [conclude]), weight_of_arrived (by simp [ht])]
    simp only [ht, taskWeight, Sending.weight, conclude]
    omega
  | report ht hl hq =>
    rw [weight_of_arrived (by simp), weight_of_arrived (by simp [ht])]
    simp only [ht, taskWeight, List.length_append, List.length_cons, List.length_nil]
    omega
  | unheard ht hl =>
    rw [weight_of_arrived (by simp), weight_of_arrived (by simp [ht])]
    simp only [ht, taskWeight]
    omega
  | done ht hc =>
    rw [weight_of_arrived (by simp), weight_of_arrived (by simp [ht])]
    simp only [ht, taskWeight]
    omega
  | hear hr hs => exact weight_of_caller rfl rfl (by simp [hr, readerWeight])
  | miss hr hs => exact weight_of_caller rfl rfl (by simp [hr, readerWeight])
  | join hr ht =>
    rename_i outcome
    cases outcome with
    | panicked payload =>
      rw [weight_of_arrived (by simp [join, ht]), weight_of_arrived (by simp [ht])]
      simp only [join, hr, readerWeight, List.length_nil]
      omega
    | returned result =>
      cases result with
      | ok _ => exact weight_of_caller rfl rfl (by simp [join, hr, readerWeight])
      | error s => exact weight_of_caller rfl rfl (by simp [join, hr, readerWeight])
  | read hr hq => exact weight_of_caller rfl rfl (by simp [hr, hq])
  | close hr hq ht => exact weight_of_caller rfl rfl (by simp [hr, hq, readerWeight])
  | drop hr =>
    refine weight_of_caller rfl rfl ?_
    rcases hr with hr | hr | hr <;> simp [hr, readerWeight]

/-! ## Runs -/

/-- What is kept by every step is kept by every run. -/
theorem run_induction {P : Exchange σ ν → Prop}
    (hstep : ∀ {x x' a}, P x → x.act p m r handler a = some x' → P x') {as : List ExchangeStep}
    (h : P x) (hx : x.run p m r handler as = some x') : P x' := by
  induction as generalizing x with
  | nil =>
    obtain rfl := Option.some.inj hx
    exact h
  | cons a as ih =>
    obtain ⟨y, hy, hrest⟩ := Option.bind_eq_some_iff.mp hx
    exact ih (hstep h hy) hrest

/-- In every run an exchange is what its call makes of it. -/
theorem sound_of_run {st : Pipeline.State σ ν} {as : List ExchangeStep}
    (hx : (start st).run p m r handler as = some x) :
    let called := p.callStream m r (Pipeline.producer (produced handler)) { st with outbox := none }
    Signalled p m r handler called x ∧ Sound p m r handler called x ∧ x.Coherent := by
  intro called
  refine run_induction (P := fun x => Signalled p m r handler called x
    ∧ Sound p m r handler called x ∧ x.Coherent) ?_
    ⟨signalled_start st, sound_start st, coherent_start st⟩ hx
  intro y y' a h ha
  obtain ⟨hg, hh, hc⟩ := h
  have hs := act_stepped ha
  exact ⟨hg.stepped hs, hh.stepped hg hc hs, hc.stepped hs⟩

theorem run_weight {as : List ExchangeStep} (hx : x.run p m r handler as = some x') :
    as.length + x'.weight p m r handler ≤ x.weight p m r handler := by
  induction as generalizing x with
  | nil =>
    obtain rfl := Option.some.inj hx
    simp
  | cons a as ih =>
    obtain ⟨y, hy, hrest⟩ := Option.bind_eq_some_iff.mp hx
    have hless := weight_stepped (act_stepped hy)
    have := ih hrest
    rw [List.length_cons]
    omega

/-- As many items have been received as there were reads. -/
theorem run_received {as : List ExchangeStep} (hx : x.run p m r handler as = some x') :
    x'.received.length = x.received.length + as.count .read := by
  induction as generalizing x with
  | nil =>
    obtain rfl := Option.some.inj hx
    simp
  | cons a as ih =>
    obtain ⟨y, hy, hrest⟩ := Option.bind_eq_some_iff.mp hx
    have hstep : y.received.length = x.received.length + [a].count .read := by
      have hs := act_stepped hy
      cases a with
      | read =>
        cases hs with
        | read hr hq => simp
      | work => rw [(work_frame hs).2]; rfl
      | learn =>
        cases hs with
        | hear | miss => rfl
        | join hr ht =>
          rename_i outcome
          cases outcome with
          | panicked payload => rfl
          | returned result => cases result <;> rfl
      | close => cases hs; rfl
      | drop => cases hs; rfl
    rw [ih hrest, hstep, Nat.add_assoc, ← List.count_append]
    rfl

/-! ## The main statement -/

/-- The items that a call has in its outbox are those of its handler. -/
theorem items_of_handler (p : Pipeline σ ν) (m : Method) (r : Request α)
    (handler : Request α → StateM (Own σ ν) Sending) {st : Pipeline.State σ ν}
    (hout : st.outbox = none) {items : List (Except Status Payload)}
    (hi : (p.callStream m r (Pipeline.producer (produced handler)) st).2.outbox = some items) :
    ∃ r' own, items = (handler r' own).1.production.items := by
  obtain ⟨-, -, hstarted⟩ :=
    arrive_settles p m r handler (x := { state := st }) hout
  rcases hstarted with ⟨-, r', own, hsome⟩ | ⟨-, hnone⟩
  · exact ⟨r', own, Option.some.inj (hi.symm.trans hsome)⟩
  · rw [hi] at hnone
    cases hnone

/-- What the caller of a stream gets, once the handler was started. -/
theorem delivered_started (m : Method) (items : List (Except Status Payload)) (o : Outcome Unit)
    (st : Pipeline.State σ ν) :
    (Pipeline.delivered m (some items) o st).1 = .ok (items ++ o.closing) := by
  unfold Pipeline.delivered Outcome.closing
  cases o with
  | panicked payload => simp
  | returned result => cases result <;> simp

/-- The caller of a stream is refused where the call failed and the handler was never started. -/
theorem failed_of_refused {m : Method} {o : Outcome Unit} {st : Pipeline.State σ ν} {s : Status}
    (h : (Pipeline.delivered m none o st).1 = .error s) :
    o = .failed s ∨ ∃ payload, o = .panicked payload := by
  cases o with
  | panicked payload => exact .inr ⟨payload, rfl⟩
  | returned result =>
    cases result with
    | ok _ => cases h
    | error s' =>
      obtain rfl : s' = s := Except.error.inj h
      exact .inl rfl

/-- With recovery no call ends in a panic. -/
theorem returned_of_recovery {os : List (PipelineOption σ ν)}
    (hp : (({} : Builder σ ν).applyAll os).build = .ok p) (hr : os.any PipelineOption.isRecovery)
    (h : Request α → StateM (Pipeline.State σ ν) (Outcome Unit)) (st : Pipeline.State σ ν) :
    ∃ result, (p.callStream m r h st).1 = .returned result := by
  obtain ⟨g, -, rfl⟩ := Choices.of_build hp
  obtain ⟨context, st', -, hrun, -⟩ := ((Choices.of os).gates_govern g
    (Choices.of os).streamStages).ends m (Pipeline.centre m h) (r.map Message.toPayload) st
  have hrecovery : (Choices.of os).recovery = true := hr
  rw [Pipeline.callStream_eq]
  show ∃ result, (Gate.run ((Choices.of os).gates g ++ (Choices.of os).streamStages) m
    (Pipeline.centre m h) (r.map Message.toPayload) st).1 = .returned result
  rw [hrun, hrecovery]
  unfold Outcome.recovered
  split
  · exact ⟨_, rfl⟩
  · exact ⟨_, rfl⟩

/-- Once the handler was started, the caller is not refused, and reads its items and then the status. -/
theorem Sound.of_started (h : Sound p m r handler called x) {items : List (Except Status Payload)}
    (hi : called.2.outbox = some items) :
    x.received <+: items ++ called.1.closing
      ∧ (x.reader = .ended → x.received = items ++ called.1.closing)
      ∧ ∀ s, x.reader ≠ .refused s := by
  have hflow : flow called = items ++ called.1.closing := by
    rw [flow, hi]
    rfl
  have hjustified := h.justified
  rw [← hflow]
  refine ⟨h.received, ?_, ?_⟩
  · intro he
    rw [he] at hjustified
    exact hjustified.1
  · intro s hs
    rw [hs] at hjustified
    have hnone := hjustified.1
    rw [hi] at hnone
    cases hnone

/-- If the handler was never started, the caller reads nothing, and is refused or the call has
succeeded. -/
theorem Sound.of_unstarted (h : Sound p m r handler called x) (hn : called.2.outbox = none) :
    x.received = []
      ∧ (∀ s, x.reader = .refused s →
          ∀ m st, (Pipeline.delivered m none called.1 (st : Pipeline.State σ ν)).1 = .error s)
      ∧ (x.reader = .reading ∨ x.reader = .ended → called.1 = .ok ()) := by
  have hjustified := h.justified
  refine ⟨h.unstarted hn, ?_, ?_⟩
  · intro s hs
    rw [hs] at hjustified
    exact hjustified.2
  · intro hr
    rcases hr with hr | hr <;> rw [hr] at hjustified
    · exact hjustified.resolve_left (by simp [hn])
    · exact hjustified.2.resolve_left (by simp [hn])

/-- **A stream delivers what was sent**, in every run of the exchange behind a call, by what the call
comes to:
* the signal of the exchange tells whether the call has started its handler;
* if the handler was started, what has been read is as much of the handler's items and, where the call
  failed, its status after them as there were reads; it is all of that once the end was seen; and it is
  what the call answers as a whole;
* if the handler was never started, no item is read; the caller gets the status of the call, or an empty
  stream where the call succeeded;
* unless it is over, the run can go on without the caller dropping the stream, and runs are bounded;
* with recovery the call does not end in a panic. -/
theorem stream_delivers (p : Pipeline σ ν) (m : Method) (r : Request α)
    (handler : Request α → StateM (Own σ ν) Sending) (st : Pipeline.State σ ν)
    {as : List ExchangeStep} {x : Exchange σ ν} (hx : (start st).run p m r handler as = some x) :
    let called := p.callStream m r (Pipeline.producer (produced handler)) { st with outbox := none }
    let answer := (p.callServerStream m r (produced handler) st).1
    (x.signal = .started → called.2.outbox.isSome)
      ∧ (x.signal = .dropped → called.2.outbox = none)
      ∧ (∀ items, called.2.outbox = some items →
        x.received = (items ++ called.1.closing).take (as.count .read)
          ∧ (x.reader = .ended → x.received = items ++ called.1.closing)
          ∧ (∀ s, x.reader ≠ .refused s)
          ∧ answer = .ok (items ++ called.1.closing)
          ∧ ∃ r' own, items = (handler r' own).1.production.items)
      ∧ (called.2.outbox = none →
          x.received = []
            ∧ (∀ s, x.reader = .refused s → answer = .error s
              ∧ (called.1 = .failed s ∨ ∃ payload, called.1 = .panicked payload))
            ∧ (x.reader = .reading ∨ x.reader = .ended → called.1 = .ok () ∧ answer = .ok []))
      ∧ (¬x.Over → ∃ a, a ≠ .drop ∧ (x.act p m r handler a).isSome)
      ∧ as.length ≤ (start st).weight p m r handler
      ∧ ∀ os : List (PipelineOption σ ν), (({} : Builder σ ν).applyAll os).build = .ok p →
          os.any PipelineOption.isRecovery → ∃ result, called.1 = .returned result := by
  intro called answer
  obtain ⟨hsignalled, hsound, hcoherent⟩ := sound_of_run hx
  have hanswer : answer = (Pipeline.delivered m called.2.outbox called.1 called.2).1 := rfl
  refine ⟨hsignalled.started, hsignalled.dropped, ?_, ?_, progress hsound hsignalled hcoherent, ?_,
    fun os hp hrec => returned_of_recovery hp hrec _ _⟩
  · intro items hi
    obtain ⟨hread, hended, hrefused⟩ := hsound.of_started hi
    refine ⟨?_, hended, hrefused, ?_, items_of_handler p m r handler rfl hi⟩
    · have hreads : x.received.length = as.count .read := by
        rw [run_received hx]
        exact Nat.zero_add _
      rw [← hreads]
      exact List.prefix_iff_eq_take.mp hread
    · rw [hanswer, hi, delivered_started]
  · intro hn
    obtain ⟨hempty, hrefused, hok⟩ := hsound.of_unstarted hn
    refine ⟨hempty, ?_, ?_⟩
    · intro s hs
      have hdelivered := hrefused s hs m called.2
      refine ⟨?_, failed_of_refused hdelivered⟩
      rw [hanswer, hn]
      exact hdelivered
    · intro hr
      refine ⟨hok hr, ?_⟩
      rw [hanswer, hn, hok hr]
      rfl
  · have hweight := run_weight hx
    omega

/-- A handler that sends one item and fails, under recovery: the item and the failure are read, and
then the end. -/
theorem stream_delivers_late_failure :
    let p : Pipeline Unit Unit := (Choices.of [.recovery]).pipeline none
    let r : Request String := { message := "watch" }
    let handler : Request String → StateM (Own Unit Unit) Sending := fun _ =>
      pure (.send (.ok (.number 7)) fun _ => .finish (.failed ⟨.aborted, "feed closed"⟩))
    let as : List ExchangeStep := [.work, .work, .learn, .work, .read, .work, .read, .close]
    ∃ x, (start { user := () }).run p (.stream "/S/Watch") r handler as = some x
      ∧ x.reader = .ended
      ∧ x.received = [.ok (.number 7), .error ⟨.aborted, "feed closed"⟩]
      ∧ (p.callServerStream (.stream "/S/Watch") r (produced handler) { user := () }).1
        = .ok x.received := by
  intro p r handler as
  have hfinal : ((start { user := () }).run p (.stream "/S/Watch") r handler as).map
      (fun x => (x.reader, x.received))
        = some (.ended, [.ok (.number 7), .error ⟨.aborted, "feed closed"⟩]) := rfl
  obtain ⟨x, hx, hparts⟩ := Option.map_eq_some_iff.mp hfinal
  obtain ⟨hreader, hreceived⟩ := Prod.mk.inj hparts
  have hsent : (p.callStream (.stream "/S/Watch") r (Pipeline.producer (produced handler))
      { user := () }).2.outbox = some [.ok (.number 7)] := rfl
  obtain ⟨-, hall, -, hanswer, -⟩ :=
    (stream_delivers p (.stream "/S/Watch") r handler { user := () } hx).2.2.1 _ hsent
  refine ⟨x, hx, hreader, hreceived, ?_⟩
  rw [hanswer, hall hreader]

end Turnstile.Exchange
