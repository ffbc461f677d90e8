import Turnstile.Proofs.Comparison

/-!
# What headers say about where a call comes from

Admission reads headers only if the connection comes from a trusted proxy, and then only the first value
of each header that it has been told to ask. Two calls whose headers differ in nothing else tell the same
origin, and the gates treat them alike, however many such calls there are in a run: the rate gate charges
by the name of the method.

* `Admission.SameOrigin`: headers that tell the same origin, and `SameOrigin.evaluate_eq`, that admission
  decides the same about them.
* `Admission.Disguised`: a call, and the same call under other headers.
* `View.blind`: what is the same of two such calls to stages that do not read headers.
* `headers_tell_origin`: runs that differ in nothing but disguises.
-/

namespace Turnstile

open PipelineOption (last? admission? authenticator?)

/-! ## Origins -/

namespace Admission

/-- Two sets of headers that tell the same origin of a call. Those of a connection that comes from no
trusted proxy tell nothing; those that a trusted proxy sends agree on the first value of each header that
is asked. -/
def SameOrigin (a : Admission) (peer : Option Endpoint) (m m' : Metadata) : Prop :=
  ∀ e, peer = some e → a.client.trusts e.address.canonical = true →
    ∀ name ∈ a.client.headers, m.find? name = m'.find? name

end Admission

/-- Only the first values of the headers that are asked tell an address. -/
theorem ClientAddress.fromHeaders?_eq {c : ClientAddress} {m m' : Metadata}
    (h : ∀ name ∈ c.headers, m.find? name = m'.find? name) : c.fromHeaders? m = c.fromHeaders? m' := by
  unfold fromHeaders?
  generalize c.headers = names at h
  induction names with
  | nil => rfl
  | cons name names ih =>
    have htext : m.text? name = m'.text? name := by
      unfold Metadata.text?
      rw [h name List.mem_cons_self]
    rw [List.findSome?_cons, List.findSome?_cons, htext,
      ih fun name hname => h name (List.mem_cons_of_mem _ hname)]

namespace Admission

variable {a : Admission} {peer : Option Endpoint} {m m' : Metadata}

/-- Headers that tell the same origin are the same to admission. -/
theorem SameOrigin.evaluate_eq (h : a.SameOrigin peer m m') :
    a.evaluate peer m = a.evaluate peer m' := by
  have hresolve : a.client.resolve? peer m = a.client.resolve? peer m' := by
    unfold ClientAddress.resolve?
    cases peer with
    | none => rfl
    | some e =>
      dsimp only
      cases ht : a.client.trusts e.address.canonical with
      | false => rfl
      | true => rw [ClientAddress.fromHeaders?_eq (h e rfl ht)]
  unfold evaluate
  rw [hresolve]

end Admission

/-! ## Disguises -/

section

variable {σ ν : Type}

/-- A call under other headers. -/
def Call.withMetadata (metadata : Metadata) : Call σ ν → Call σ ν
  | @unary _ _ _ _ _ _ m r handler => .unary m { r with metadata } handler
  | @stream _ _ _ _ m r handler => .stream m { r with metadata } handler
  | @serverStream _ _ _ _ m r handler => .serverStream m { r with metadata } handler

/-- The second call is the first under headers that tell the same origin. -/
def Admission.Disguised (a : Admission) (k k' : Call σ ν) : Prop :=
  ∃ metadata, a.SameOrigin k.request.peer k.request.metadata metadata ∧ k' = k.withMetadata metadata

theorem Call.request_withMetadata (metadata : Metadata) (k : Call σ ν) :
    (k.withMetadata metadata).request = { k.request with metadata } := by
  cases k <;> rfl

theorem Admission.Disguised.method_eq {a : Admission} {k k' : Call σ ν} (h : a.Disguised k k') :
    k.method = k'.method := by
  obtain ⟨metadata, -, rfl⟩ := h
  cases k <;> rfl

/-- Admission treats a call like its disguise. -/
theorem Admission.Disguised.evaluate_eq {a : Admission} {k k' : Call σ ν} (h : a.Disguised k k') :
    a.evaluateRequest k.request = a.evaluateRequest k'.request := by
  obtain ⟨metadata, horigin, rfl⟩ := h
  rw [Call.request_withMetadata]
  exact horigin.evaluate_eq

end

/-! ## Fates -/

namespace Choices

variable {σ ν : Type} {c : Choices σ ν}

/-- Without an authenticator, admission and the rate gate alone decide. -/
theorem ruling_fate (h : c.authenticator = none) (g : Option RateGate) (m : Method)
    (r : Request Payload) (st : Pipeline.State σ ν) :
    (c.ruling g m r st).fate
      = if c.blocks r then .blocked
        else if (Gate.drawn g st.clock st.buckets m).1.allowed then .admitted else .rateLimited := by
  cases hb : c.blocks r with
  | true =>
    rw [ruling_of_blocks hb]
    rfl
  | false =>
    cases ha : (Gate.drawn g st.clock st.buckets m).1.allowed with
    | false =>
      rw [ruling_of_not_allowed hb ha]
      rfl
    | true =>
      rw [ruling_of_allowed hb ha, h]
      rfl

end Choices

/-! ## Stages that do not read headers -/

namespace View

variable {σ ν : Type} (v : View σ)

/-- Two requests are alike but for their headers, and for their identifiers where gates take those from
headers. -/
structure Veiled (tagged : Prop) (r r' : Request Payload) : Prop where
  peer : r.peer = r'.peer
  group : r.context.group = r'.context.group
  actor : r.context.actor = r'.context.actor
  others : r.context.others = r'.context.others
  requestId : ¬ tagged → r.context.requestId = r'.context.requestId
  message : v.message r.message = v.message r'.message

/-- What is the same of a call and its disguise. -/
def blind (tagged : Prop) : Parallel σ where
  method := Eq
  named h := congrArg Method.fullName h
  user s s' := v.state s = v.state s'
  request := v.Veiled tagged
  minted := False
  strict := v.strict

/-- A stage of the user's does not read headers, on any lane that it is on. -/
def Heedless (tagged : Prop) : UserEntry σ ν → Prop
  | .unary u => u.Agree (v.blind tagged) Eq u
  | .streaming t => t.Agree (v.blind tagged) Eq t
  | .both u t => u.Agree (v.blind tagged) Eq u ∧ t.Agree (v.blind tagged) Eq t

variable {v} {os : List (PipelineOption σ ν)}

/-- Gates do not tell calls apart that are alike but for their headers, if admission does not. -/
theorem blind_parallels (hauth : last? authenticator? os = none) {a : Admission}
    (ha : last? admission? os = some a) {tagged : Prop}
    (htagged : (Choices.of os).recovery = true ∨ (Choices.of os).requestId = true → tagged) :
    (Choices.of os).Parallels { v.blind tagged with
      request := fun r r' => v.Veiled tagged r r' ∧ a.evaluateRequest r = a.evaluateRequest r' } := by
  refine ⟨?_, ?_, ?_, ?_⟩
  · rintro hid r r' n n' ⟨hr, hadmits⟩ -
    exact ⟨⟨⟨hr.peer, hr.group, hr.actor, hr.others, fun h => absurd (htagged hid) h, hr.message⟩,
      hadmits⟩, False.elim⟩
  · rintro r r' group ⟨hr, hadmits⟩
    exact ⟨⟨hr.peer, rfl, hr.actor, hr.others, hr.requestId, hr.message⟩, hadmits⟩
  · rintro a' ha' r r' ⟨-, hadmits⟩
    obtain rfl := Option.some.inj (ha.symm.trans ha')
    exact hadmits
  · intro a' ha'
    rw [show (Choices.of os).authenticator = none from hauth] at ha'
    cases ha'

/-- On either lane a stage that does not read headers does the same with a call and its disguise. -/
theorem heedless_paired {tagged : Prop} (hos : ∀ e, .user e ∈ os → v.Heedless tagged e)
    {s : PipelineStage σ ν} (hs : s ∈ (Choices.of os).stages) :
    Option.Rel (Gate.Paired (v.blind tagged) Eq) s.onUnary? s.onUnary?
      ∧ Option.Rel (Gate.Paired (v.blind tagged) Eq) s.onStream? s.onStream? := by
  rcases Call.mem_stages hs with rfl | ⟨e, he, rfl⟩
  · exact ⟨.some .span, .some .span⟩
  · have hheedless := hos e he
    cases e with
    | unary u => exact ⟨.some (.user hheedless), .none⟩
    | streaming t => exact ⟨.none, .some (.user hheedless)⟩
    | both u t => exact ⟨.some (.user hheedless.1), .some (.user hheedless.2)⟩

end View

section

variable {σ ν : Type}

/-- To a view, the handler of a call does the same whatever the headers are. -/
def Call.Heedless (v : View σ) (tagged : Prop) (k : Call σ ν) : Prop :=
  Call.Handled (v.blind tagged) k k Eq

/-- A call and its disguise, made at one instant and with the same buckets, meet with the same fate at the
gates and leave the same buckets, whatever stages and handlers do. -/
theorem Admission.Disguised.decided {os : List (PipelineOption σ ν)}
    (hauth : last? authenticator? os = none) {a : Admission} (ha : last? admission? os = some a)
    {k k' : Call σ ν} (h : a.Disguised k k') (g : Option RateGate) {st st' : Pipeline.State σ ν}
    (hclock : st.clock = st'.clock) (hbuckets : st.buckets = st'.buckets) :
    let c := Choices.of os
    let fate := (c.ruling g k.method k.request st).fate
    fate = (c.ruling g k'.method k'.request st').fate
      ∧ (∀ s, fate.rejection? = some s →
        (k.make (c.pipeline g) st).1 = some s ∧ (k'.make (c.pipeline g) st').1 = some s)
      ∧ (k.make (c.pipeline g) st).2.clock = (k'.make (c.pipeline g) st').2.clock
      ∧ (k.make (c.pipeline g) st).2.buckets = (k'.make (c.pipeline g) st').2.buckets := by
  intro c fate
  have hblocks : c.blocks k.request = c.blocks k'.request := by
    refine Choices.blocks_eq fun a' ha' => ?_
    obtain rfl := Option.some.inj (ha.symm.trans ha')
    exact h.evaluate_eq
  have hnone : c.authenticator = none := hauth
  have hfate : fate = (c.ruling g k'.method k'.request st').fate := by
    simp only [fate, Choices.ruling_fate hnone, hblocks, h.method_eq, hclock, hbuckets]
  have hrules : c.Rules g (c.pipeline g) := ⟨c.gates_govern g _, c.gates_govern g _⟩
  obtain ⟨hnow, hleft⟩ := Call.make_spends os g k st
  obtain ⟨hnow', hleft'⟩ := Call.make_spends os g k' st'
  refine ⟨hfate, fun s hs => ⟨(k.make_rejected hrules st hs).1,
    (k'.make_rejected hrules st' (hfate ▸ hs)).1⟩, ?_, ?_⟩
  · rw [hnow, hnow', hclock]
  · rw [hleft, hleft', hblocks, hclock, hbuckets, h.method_eq]

/-- A call and its disguise are treated alike by gates and by stages that do not read headers, and if the
handler does not either, the states stay related. -/
theorem Admission.Disguised.treated {v : View σ} {os : List (PipelineOption σ ν)}
    (hauth : last? authenticator? os = none) {a : Admission} (ha : last? admission? os = some a)
    {tagged : Prop}
    (htagged : (Choices.of os).recovery = true ∨ (Choices.of os).requestId = true → tagged)
    (hos : ∀ e, .user e ∈ os → v.Heedless tagged e) {k k' : Call σ ν} (h : a.Disguised k k')
    (g : Option RateGate) {st st' : Pipeline.State σ ν} (hs : (v.blind tagged).Level st st') :
    (v.blind tagged).Treated ((Choices.of os).pipeline g) (k, st) (k', st')
      ∧ (k.Heedless v tagged → (v.blind tagged).Level (k.make ((Choices.of os).pipeline g) st).2
          (k'.make ((Choices.of os).pipeline g) st').2) := by
  have hadmits := h.evaluate_eq
  obtain ⟨metadata, -, rfl⟩ := h
  have hgates := View.blind_parallels (v := v) hauth ha htagged
  have hveiled : ∀ r : Request Payload, v.Veiled tagged r { r with metadata } := fun _ =>
    ⟨rfl, rfl, rfl, rfl, fun _ => rfl, rfl⟩
  cases k with
  | unary m r handler =>
    exact @Call.treated σ ν (v.blind tagged) _ (Choices.of os) (.unary m r handler)
      (.unary m { r with metadata } handler) Eq rfl hgates
      (fun s hs => (View.heedless_paired hos hs).1) (fun _ _ hr => hr.1) ⟨hveiled _, hadmits⟩ g _ _ hs
  | stream m r handler =>
    exact @Call.treated σ ν (v.blind tagged) _ (Choices.of os) (.stream m r handler)
      (.stream m { r with metadata } handler) Eq rfl hgates
      (fun s hs => (View.heedless_paired hos hs).2) (fun _ _ hr => hr.1) ⟨hveiled _, hadmits⟩ g _ _ hs
  | serverStream m r handler =>
    exact @Call.treated σ ν (v.blind tagged) _ (Choices.of os) (.serverStream m r handler)
      (.serverStream m { r with metadata } handler) Eq rfl hgates
      (fun s hs => (View.heedless_paired hos hs).2) (fun _ _ hr => hr.1) ⟨hveiled _, hadmits⟩ g _ _ hs

/-- **Headers tell no more than an origin.** For a pipeline with admission and without an authenticator,
and for two runs that make the same calls, each under headers of its own that tell the same origin:
* whatever stages and handlers do, corresponding calls are made at the same instants and with the same
  buckets, and meet with the same fate at the gates, with the same status if they are rejected. After
  every step of the runs the buckets are the same;
* if the stages do not read headers, nor identifiers that gates take from headers, nor what handlers
  leave of them in the user's state, corresponding calls are treated alike by the stages too, and what is
  seen of the state is the same after every step. -/
theorem headers_tell_origin (os : List (PipelineOption σ ν)) {a : Admission}
    (ha : last? admission? os = some a) (hauth : last? authenticator? os = none) {p : Pipeline σ ν}
    (hp : (({} : Builder σ ν).applyAll os).build = .ok p) (u u' : σ) (minted minted' : Mint)
    (es es' : List (Pipeline.Event σ ν)) :
    let c := Choices.of os
    let tagged := c.recovery = true ∨ c.requestId = true
    (List.Forall₂ (Pipeline.Event.Related a.Disguised) es es' →
      List.Forall₂ (fun x x' =>
          let fate := (c.ruling p.rateGate x.1.method x.1.request x.2).fate
          fate = (c.ruling p.rateGate x'.1.method x'.1.request x'.2).fate
            ∧ (∀ s, fate.rejection? = some s →
              (x.1.make p x.2).1 = some s ∧ (x'.1.make p x'.2).1 = some s)
            ∧ x.2.clock = x'.2.clock ∧ x.2.buckets = x'.2.buckets)
        (p.calls es (p.start u minted)) (p.calls es' (p.start u' minted'))
      ∧ ∀ n, (p.run (es.take n) (p.start u minted)).buckets
          = (p.run (es'.take n) (p.start u' minted')).buckets)
    ∧ ∀ v : View σ, (∀ e, .user e ∈ os → v.Heedless tagged e) → v.state u = v.state u' →
      List.Forall₂ (Pipeline.Event.Related fun k k' => a.Disguised k k' ∧ k.Heedless v tagged)
        es es' →
      List.Forall₂ (fun x x' => (v.blind tagged).Level x.2 x'.2 ∧ (v.blind tagged).Treated p x x')
        (p.calls es (p.start u minted)) (p.calls es' (p.start u' minted'))
      ∧ ∀ n, (v.blind tagged).Level (p.run (es.take n) (p.start u minted))
          (p.run (es'.take n) (p.start u' minted')) := by
  obtain ⟨g, -, rfl⟩ := Choices.of_build hp
  intro c tagged
  constructor
  · intro hes
    have hstart : ((c.pipeline g).start u minted).clock = ((c.pipeline g).start u' minted').clock
        ∧ ((c.pipeline g).start u minted).buckets = ((c.pipeline g).start u' minted').buckets :=
      ⟨rfl, rfl⟩
    obtain ⟨hcalls, hsteps⟩ := Pipeline.runs_related (p := c.pipeline g)
      (L := fun st st' => st.clock = st'.clock ∧ st.buckets = st'.buckets)
      (fun nanos _ _ hs => ⟨congrArg (· + nanos) hs.1, hs.2⟩)
      (fun h hs => (h.decided hauth ha g hs.1 hs.2).2.2)
      hes hstart
    refine ⟨hcalls.imp ?_, fun n => (hsteps n).2⟩
    rintro x x' ⟨h, hclock, hbuckets⟩
    obtain ⟨hfate, hrejected, -⟩ := h.decided hauth ha g hclock hbuckets
    exact ⟨hfate, hrejected, hclock, hbuckets⟩
  · intro v hos hu hes
    have hstart : (v.blind tagged).Level ((c.pipeline g).start u minted : Pipeline.State σ ν)
        ((c.pipeline g).start u' minted') := ⟨rfl, rfl, hu, False.elim⟩
    obtain ⟨hcalls, hsteps⟩ := Pipeline.runs_related (p := c.pipeline g)
      (L := (v.blind tagged).Level) (fun nanos _ _ hs => hs.advance nanos)
      (fun h hs => (h.1.treated hauth ha id hos g hs).2 h.2) hes hstart
    refine ⟨hcalls.imp ?_, hsteps⟩
    rintro x x' ⟨⟨h, -⟩, hs⟩
    exact ⟨hs, (h.treated hauth ha id hos g hs).1⟩

/-- Admission with a network that is shut out and a trusted proxy. A direct caller that names an address
of either in a header changes nothing, and neither does a second value behind one that the proxy has
sent. -/
theorem headers_tell_origin_spoofed :
    let real (s : String) : Header := ⟨"x-real-ip", s.toList.map fun c => UInt8.ofNat c.toNat⟩
    let a : Admission := ⟨.denyList, [.v4 0x0a010000 16], .of [.v4 0xc0a80000 24] ["X-Real-IP"]⟩
    let os : List (PipelineOption Nat Unit) :=
      [.requestId, .admission a, .user (.streaming (.tallying (· + 1))), .rateLimit 1.0 2]
    let direct : Endpoint := { address := .v4 0x0b000001, port := 80 }
    let proxy : Endpoint := { address := .v4 0xc0a80005, port := 80 }
    let call (peer : Option Endpoint) (headers : List Header) : Pipeline.Event Nat Unit :=
      .call (.stream (.stream "/S/A") { peer, metadata := ⟨headers⟩, message := "hello" }
        fun _ => pure (.ok ()))
    let es := [call (some direct) [], call (some proxy) [real "10.1.2.3"], call none [],
      call (some proxy) [real "11.0.0.1"], call (some direct) []]
    let es' := [call (some direct) [real "10.1.2.3"],
      call (some proxy) [real "10.1.2.3", real "11.0.0.1"], call none [real "11.0.0.1"],
      call (some proxy) [real "11.0.0.1", real "10.1.2.3"], call (some direct) [real "192.168.0.5"]]
    let v : View Nat := ⟨Nat, Payload, id, id, False⟩
    let c := Choices.of os
    let tagged := c.recovery = true ∨ c.requestId = true
    ∃ p, (({} : Builder Nat Unit).applyAll os).build = .ok p
      ∧ (∀ n, (p.run (es.take n) (p.start 0)).buckets = (p.run (es'.take n) (p.start 0)).buckets)
      ∧ List.Forall₂ (fun x x' => (v.blind tagged).Level x.2 x'.2 ∧ (v.blind tagged).Treated p x x')
        (p.calls es (p.start 0)) (p.calls es' (p.start 0))
      ∧ ((p.calls es' (p.start 0)).map fun x => (x.1.make p x.2).1)
        = [none, some ⟨.permissionDenied, "blocked"⟩, some ⟨.permissionDenied, "blocked"⟩, none,
          some ⟨.resourceExhausted, "rate limit exceeded"⟩] := by
  intro real a os direct proxy call es es' v c tagged
  have hanswers : (c.limits.toOption.map fun g =>
      ((c.pipeline g).calls es' ((c.pipeline g).start 0)).map fun x => (x.1.make (c.pipeline g) x.2).1)
      = some [none, some ⟨.permissionDenied, "blocked"⟩, some ⟨.permissionDenied, "blocked"⟩, none,
          some ⟨.resourceExhausted, "rate limit exceeded"⟩] := by
    decide +kernel
  cases hg : c.limits with
  | error e =>
    rw [hg] at hanswers
    cases hanswers
  | ok g =>
    rw [hg] at hanswers
    have hp : (({} : Builder Nat Unit).applyAll os).build = .ok (c.pipeline g) := by
      rw [Choices.applyAll_eq, Choices.build_builder, hg]
    have hos : ∀ e, .user e ∈ os → v.Heedless tagged e := by
      intro e he
      simp only [os, List.mem_cons, List.not_mem_nil, or_false, PipelineOption.user.injEq,
        reduceCtorEq, false_or] at he
      subst he
      exact UserStage.tallying_agree fun _ _ h => congrArg (· + 1) h
    have hcall : ∀ {peer headers headers'}, a.SameOrigin peer ⟨headers⟩ ⟨headers'⟩ →
        Pipeline.Event.Related (fun k k' => a.Disguised k k' ∧ k.Heedless v tagged)
          (call peer headers) (call peer headers') := by
      intro peer headers headers' h
      refine .call ⟨⟨⟨headers'⟩, h, rfl⟩, fun q q' st st' hq hs => ⟨?_, False.elim⟩⟩
      simp only [Call.handling, Pipeline.centre]
      cases (Message.ofPayload? q.message : Option String) <;>
        cases (Message.ofPayload? q'.message : Option String) <;> exact hs
    have hdirect : ∀ headers headers', a.SameOrigin (some direct) ⟨headers⟩ ⟨headers'⟩ := by
      intro headers headers' e he ht
      cases he
      exact absurd ht (by decide)
    have hnowhere : ∀ headers headers', a.SameOrigin none ⟨headers⟩ ⟨headers'⟩ := by
      intro headers headers' e he
      cases he
    have hproxy : ∀ first rest rest',
        a.SameOrigin (some proxy) ⟨real first :: rest⟩ ⟨real first :: rest'⟩ := by
      intro first rest rest' e he ht name hname
      rw [show a.client.headers = ["x-real-ip"] by decide +kernel, List.mem_singleton] at hname
      subst hname
      simp only [Metadata.find?, real, decide_true, List.find?_cons_of_pos]
    have hes : List.Forall₂ (Pipeline.Event.Related fun k k' =>
        a.Disguised k k' ∧ k.Heedless v tagged) es es' :=
      .cons (hcall (hdirect _ _)) <| .cons (hcall (hproxy _ _ _)) <|
        .cons (hcall (hnowhere _ _)) <| .cons (hcall (hproxy _ _ _)) <|
        .cons (hcall (hdirect _ _)) .nil
    obtain ⟨hfates, hstages⟩ := headers_tell_origin os rfl rfl hp 0 0 {} {} es es'
    obtain ⟨hcalls, -⟩ := hstages v hos rfl hes
    exact ⟨_, hp, (hfates (hes.imp fun _ _ h => h.imp And.left)).2, hcalls, Option.some.inj hanswers⟩

end

end Turnstile
