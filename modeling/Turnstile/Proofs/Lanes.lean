import Turnstile.Proofs.Comparison

/-!
# The lanes agree

Calls of one kind go through one lane and calls of the other kinds through the other, but the gates are
the same on both. If the user's stages do the same on both lanes as well, it makes no difference to
admission on which lane a request comes: it gets equally far, draws the same tokens, and what reaches the
handler is the same. In a run calls may then move between the lanes without any other call noticing.

What is the same is said in a view of the user's states and of messages: a view that sees all of them
asks least of stages and authenticators, one that sees nothing asks nothing of handlers.

* `View.Like`, `View.parallel`: what is the same on both lanes.
* `View.Twins`: the two forms of a stage that does the same on both lanes.
* `Call.Moved`: calls that differ in nothing but their lanes.
* `lanes_agree`: single calls and whole runs.
-/

namespace Turnstile

open PipelineOption (last? authenticator?)

/-! ## What is the same on both lanes -/

namespace View

variable {σ ν : Type} (v : View σ)

/-- Two requests are alike: their headers, their peers and what stages have found out about them are the
same, and so are their messages to the view. -/
structure Like (r r' : Request Payload) : Prop where
  metadata : r.metadata = r'.metadata
  peer : r.peer = r'.peer
  context : r.context = r'.context
  message : v.message r.message = v.message r'.message

variable {v} in
theorem Like.symm {r r' : Request Payload} (h : v.Like r r') : v.Like r' r :=
  ⟨h.metadata.symm, h.peer.symm, h.context.symm, h.message.symm⟩

theorem Like.refl (r : Request Payload) : v.Like r r := ⟨rfl, rfl, rfl, rfl⟩

variable {v} in
/-- Requests that are alike to a view that sees all of the message are the same. -/
theorem Like.eq {r r' : Request Payload} (h : v.Like r r') (hv : Function.Injective v.message) :
    r = r' := by
  obtain ⟨metadata, peer, context, message⟩ := r
  obtain rfl : metadata = _ := h.metadata
  obtain rfl : peer = _ := h.peer
  obtain rfl : context = _ := h.context
  obtain rfl : message = _ := hv h.message
  rfl

variable {v} in
/-- Gates write the same into the contexts of requests that are alike. -/
theorem Like.updateContext {r r' : Request Payload} (h : v.Like r r') (f : Context → Context) :
    v.Like (r.updateContext f) (r'.updateContext f) :=
  ⟨h.metadata, h.peer, congrArg f h.context, h.message⟩

/-- What is the same on both lanes: the name of the method, the state in the view, the request. -/
def parallel : Parallel σ where
  method m m' := m.fullName = m'.fullName
  named h := h
  user s s' := v.state s = v.state s'
  request := v.Like
  minted := True
  strict := v.strict

theorem identifies : v.parallel.Identifies := by
  intro r r' n n' hr hn
  obtain rfl := hn trivial
  have hsettled : RequestId.settle r.context.requestId r.metadata.requestId? n
      = RequestId.settle r'.context.requestId r'.metadata.requestId? n := by
    rw [hr.context, hr.metadata]
  dsimp only
  rw [hsettled]
  exact ⟨hr.updateContext _, fun _ => rfl⟩

theorem groups : v.parallel.Groups := fun _ _ _ hr => Like.updateContext hr _

theorem admits (a : Admission) {r r' : Request Payload} (h : v.Like r r') :
    a.evaluateRequest r = a.evaluateRequest r' := by
  unfold Admission.evaluateRequest
  rw [h.peer, h.metadata]

/-- An authenticator knows the lane as little as the view does that sees all of the user's state. -/
theorem heeds (hv : Function.Injective v.state) (a : Authenticator σ ν) : v.parallel.Heeds a := by
  intro name r r' s s' hr hs
  obtain rfl := hv hs
  rw [hr.context, hr.metadata]
  exact ⟨rfl, rfl, fun _ _ => ⟨rfl, hr.peer, rfl, hr.message⟩⟩

theorem parallels {c : Choices σ ν} (h : ∀ a, c.authenticator = some a → v.parallel.Heeds a) :
    c.Parallels v.parallel :=
  ⟨fun _ => v.identifies, v.groups, fun a _ _ _ hr => v.admits a hr, h⟩

/-! ## Stages that do the same on both lanes -/

/-- Two stages do the same to the view, on lanes whose results differ: of a result they heed no more than
how it ended. -/
def Twins {ρ ρ' : Type} (u : UserStage σ ν ρ) (t : UserStage σ ν ρ') : Prop :=
  u.Agree v.parallel (fun _ _ => True) t

variable {v} {ρ ρ' ρ'' : Type}

theorem alike_symm {o : Outcome ρ} {o' : Outcome ρ'} (h : o.Alike (fun _ _ => True) o') :
    o'.Alike (fun _ _ => True) o := by
  cases h with
  | ok => exact .ok trivial
  | failed s => exact .failed s
  | panicked payload => exact .panicked payload

theorem alike_trans {o : Outcome ρ} {o' : Outcome ρ'} {o'' : Outcome ρ''}
    (h : o.Alike (fun _ _ => True) o') (h' : o'.Alike (fun _ _ => True) o'') :
    o.Alike (fun _ _ => True) o'' := by
  cases h <;> cases h' <;> constructor
  trivial

/-- An outcome and the same with another result. -/
theorem alike_map (o : Outcome ρ) (b : ρ') : o.Alike (fun _ _ => True) (o.map fun _ => b) := by
  cases o with
  | returned result =>
    cases result with
    | ok a => exact .ok trivial
    | error s => exact .failed s
  | panicked payload => exact .panicked payload

theorem Twins.symm {u : UserStage σ ν ρ} {t : UserStage σ ν ρ'} (h : v.Twins u t) : v.Twins t u := by
  intro m m' r r' s s' hm hr hs
  obtain ⟨hentered, huser⟩ := h (Eq.symm hm) (Like.symm hr) (Eq.symm hs)
  refine ⟨?_, huser.symm⟩
  generalize (u.enter m' r' { state := s' }).1 = e at hentered
  generalize (t.enter m r { state := s }).1 = e' at hentered
  cases hentered with
  | answered h => exact .answered (alike_symm h)
  | passed hq hstate hresult =>
    refine .passed (Like.symm hq) ?_ ?_
    · intro o o' s s' ho hs
      exact (hstate (fun hstrict => alike_symm (ho hstrict)) (Eq.symm hs)).symm
    · intro o o' s s' ho hs
      exact alike_symm (hresult (alike_symm ho) (Eq.symm hs))

theorem Twins.trans (b : ρ') {u : UserStage σ ν ρ} {t : UserStage σ ν ρ'}
    {w : UserStage σ ν ρ''} (h : v.Twins u t) (h' : v.Twins t w) : v.Twins u w := by
  intro m m' r r' s s' hm hr hs
  obtain ⟨hentered, huser⟩ := h hm hr hs
  obtain ⟨hentered', huser'⟩ := h' (rfl : m'.fullName = m'.fullName) (Like.refl v r')
    (rfl : v.state s' = v.state s')
  refine ⟨?_, huser.trans huser'⟩
  generalize (u.enter m r { state := s }).1 = e at hentered
  generalize (t.enter m' r' { state := s' }).1 = e' at hentered hentered'
  generalize (w.enter m' r' { state := s' }).1 = e'' at hentered'
  cases hentered with
  | answered h =>
    cases hentered' with
    | answered h' => exact .answered (alike_trans h h')
  | passed hq hstate hresult =>
    cases hentered' with
    | passed hq' hstate' hresult' =>
      refine .passed ⟨hq.metadata.trans hq'.metadata, hq.peer.trans hq'.peer,
        hq.context.trans hq'.context, hq.message.trans hq'.message⟩ ?_ ?_
      -- between the outcomes of the outer lanes goes one of the lane in the middle
      · intro o o' s s' ho hs
        have hmiddle := alike_map o b
        exact (hstate (fun _ => hmiddle) hs).trans
          (hstate' (fun hstrict => alike_trans (alike_symm hmiddle) (ho hstrict)) rfl)
      · intro o o' s s' ho hs
        have hmiddle := alike_map o b
        exact alike_trans (hresult hmiddle hs) (hresult' (alike_trans (alike_symm hmiddle) ho) rfl)

/-- Stages that have twin forms on both lanes do the same on any two. -/
theorem part_paired {os : List (PipelineOption σ ν)}
    (hos : ∀ e, .user e ∈ os → ∃ u t, e = .both u t ∧ v.Twins u t) (k k' : Call σ ν)
    {s : PipelineStage σ ν} (hs : s ∈ (Choices.of os).stages) :
    Option.Rel (Gate.Paired v.parallel fun _ _ => True) (k.part s) (k'.part s) := by
  rcases Call.mem_stages hs with rfl | ⟨e, he, rfl⟩
  · cases k <;> cases k' <;> exact .some .span
  · obtain ⟨u, t, rfl, htwins⟩ := hos e he
    have hback := htwins.symm
    have hunary := htwins.trans () hback
    have hstream := hback.trans ⟨{}, {}, .text ""⟩ htwins
    cases k <;> cases k' <;> first
      | exact .some (.user hunary)
      | exact .some (.user hstream)
      | exact .some (.user htwins)
      | exact .some (.user hback)

end View

/-! ## The main statement -/

section

variable {σ ν : Type}

/-- Two calls that differ, to a view, at most in the lanes on which they are made: their handlers do the
same. -/
structure Call.Moved (v : View σ) (k k' : Call σ ν) : Prop where
  method : k.method.fullName = k'.method.fullName
  request : v.Like k.request k'.request
  handler : Call.Handled v.parallel k k' fun _ _ => True

/-- Handlers that do the same with typed requests do the same at the centre of any lane, to a view that
sees all of the message. -/
theorem View.centre_alike {v : View σ} (hv : Function.Injective v.message) {α ρ ρ' : Type} [Message α]
    {h : Request α → StateM (Pipeline.State σ ν) (Outcome ρ)}
    {h' : Request α → StateM (Pipeline.State σ ν) (Outcome ρ')}
    (hh : ∀ r ⦃st st'⦄, v.state st.user = v.state st'.user →
      v.state (h r st).2.user = v.state (h' r st').2.user
        ∧ (h r st).1.Alike (fun _ _ => True) (h' r st').1)
    {m m' : Method} {q q' : Request Payload} {st st' : Pipeline.State σ ν} (hq : v.Like q q')
    (hs : v.state st.user = v.state st'.user) :
    v.state (Pipeline.centre m h q st).2.user = v.state (Pipeline.centre m' h' q' st').2.user
      ∧ (v.strict → (Pipeline.centre m h q st).1.Alike (fun _ _ => True)
        (Pipeline.centre m' h' q' st').1) := by
  obtain rfl := hq.eq hv
  unfold Pipeline.centre
  cases (Message.ofPayload? q.message : Option α) with
  | none => exact ⟨hs, fun _ => .failed .internal⟩
  | some a =>
    obtain ⟨hstate, hresult⟩ := hh (q.map fun _ => a) hs
    exact ⟨hstate, fun _ => hresult⟩

/-- Two calls of any kinds are treated alike if their methods have one name and their requests are alike,
and if their handlers do the same too, the states stay level. -/
theorem View.lanes_treat {v : View σ} {os : List (PipelineOption σ ν)}
    (ha : ∀ a, last? authenticator? os = some a → v.parallel.Heeds a)
    (hos : ∀ e, .user e ∈ os → ∃ u t, e = .both u t ∧ v.Twins u t) (g : Option RateGate)
    {k k' : Call σ ν} (hm : k.method.fullName = k'.method.fullName) (hr : v.Like k.request k'.request)
    {st st' : Pipeline.State σ ν} (hs : v.parallel.Level st st') :
    v.parallel.Treated ((Choices.of os).pipeline g) (k, st) (k', st')
      ∧ (Call.Handled v.parallel k k' (fun _ _ => True) →
        v.parallel.Level (k.make ((Choices.of os).pipeline g) st).2
          (k'.make ((Choices.of os).pipeline g) st').2) :=
  Call.treated hm (v.parallels ha) (fun _ hs => part_paired hos k k' hs) (fun _ _ hr => hr) hr g hs

/-- **The lanes agree.** For a pipeline that was built from options whose stages do the same on both
lanes, to a view in which the authenticator tells no more apart, if there is one:
* two calls of any kinds, with methods of one name and requests that are alike, in states with the same
  clock and buckets, get equally far: they are answered alike on the way in, with the same status if they
  are rejected, or the requests that are handed to their handlers are alike, down to identifier, group
  and actor. They draw the same tokens, whatever the handlers do;
* in two runs in which calls are made on different lanes, corresponding calls are made in states that are
  level and get equally far, and the states are level after every step. -/
theorem lanes_agree (v : View σ) (os : List (PipelineOption σ ν))
    (ha : ∀ a, last? authenticator? os = some a → v.parallel.Heeds a)
    (hos : ∀ e, .user e ∈ os → ∃ u t, e = .both u t ∧ v.Twins u t) {p : Pipeline σ ν}
    (hp : (({} : Builder σ ν).applyAll os).build = .ok p) :
    (∀ (k k' : Call σ ν) (st st' : Pipeline.State σ ν), k.method.fullName = k'.method.fullName →
      v.Like k.request k'.request → v.parallel.Level st st' →
      v.parallel.Treated p (k, st) (k', st')
        ∧ (k.make p st).2.clock = (k'.make p st').2.clock
        ∧ (k.make p st).2.buckets = (k'.make p st').2.buckets)
    ∧ ∀ (u u' : σ) (minted : Mint), v.state u = v.state u' → ∀ es es' : List (Pipeline.Event σ ν),
      List.Forall₂ (Pipeline.Event.Related (Call.Moved v)) es es' →
      List.Forall₂ (fun x x' => v.parallel.Level x.2 x'.2 ∧ v.parallel.Treated p x x')
        (p.calls es (p.start u minted)) (p.calls es' (p.start u' minted))
      ∧ ∀ n, v.parallel.Level (p.run (es.take n) (p.start u minted))
        (p.run (es'.take n) (p.start u' minted)) := by
  obtain ⟨g, -, rfl⟩ := Choices.of_build hp
  constructor
  · intro k k' st st' hm hr hs
    obtain ⟨hclock, hbuckets⟩ := Call.make_spends os g k st
    obtain ⟨hclock', hbuckets'⟩ := Call.make_spends os g k' st'
    refine ⟨(View.lanes_treat ha hos g hm hr hs).1, ?_, ?_⟩
    · rw [hclock, hclock', hs.clock]
    · rw [hbuckets, hbuckets', hs.clock, hs.buckets, Choices.blocks_eq fun a _ => v.admits a hr,
        Gate.drawn_eq hm]
  · intro u u' minted hu es es' hes
    have hstart : v.parallel.Level (((Choices.of os).pipeline g).start u minted : Pipeline.State σ ν)
        (((Choices.of os).pipeline g).start u' minted) := ⟨rfl, rfl, hu, fun _ => rfl⟩
    obtain ⟨hcalls, hsteps⟩ := Pipeline.runs_related (L := v.parallel.Level)
      (fun nanos _ _ hs => hs.advance nanos)
      (fun h hs => (View.lanes_treat ha hos g h.method h.request hs).2 h.handler) hes hstart
    refine ⟨hcalls.imp ?_, hsteps⟩
    rintro x x' ⟨h, hs⟩
    exact ⟨hs, (View.lanes_treat ha hos g h.method h.request hs).1⟩

/-- Two calls a second, and a stage that counts them on both lanes: three calls at once, on the three ways
in, and the same in another order. The third is refused both times, and the counts are the same. -/
theorem lanes_agree_in_turn :
    let os : List (PipelineOption Nat Unit) :=
      [.recovery, .user (.both (.tallying (· + 1)) (.tallying (· + 1))), .rateLimit 2.0 2,
        .authentication fun _ _ context => pure (.accepted { context with actor := some {} })]
    let r : Request String := { message := "hello" }
    let one : Call Nat Unit := .unary (.unary "/S/A") r fun _ => pure (.ok { message := "fine" })
    let held : Call Nat Unit := .stream (.stream "/S/A") r fun _ => pure (.ok ())
    let sent : Call Nat Unit := .serverStream (.stream "/S/A") r fun _ =>
      pure ⟨[.ok (.text "fine")], .ok ()⟩
    let es := [.call one, .call held, .call sent, .wait 1000000000, .call one]
    let es' := [.call sent, .call one, .call held, .wait 1000000000, .call sent]
    let v : View Nat := ⟨Nat, Payload, id, id, True⟩
    ∃ p, (({} : Builder Nat Unit).applyAll os).build = .ok p
      ∧ List.Forall₂ (fun x x' => v.parallel.Level x.2 x'.2 ∧ v.parallel.Treated p x x')
        (p.calls es (p.start 0)) (p.calls es' (p.start 0))
      ∧ ((p.calls es' (p.start 0)).map fun x => (x.1.make p x.2).1)
        = [none, none, some ⟨.resourceExhausted, "rate limit exceeded"⟩, none]
      ∧ (p.run es (p.start 0)).user = 3 := by
  intro os r one held sent es es' v
  have hfinal : ((Choices.of os).limits.toOption.map fun g =>
      let p := (Choices.of os).pipeline g
      ((p.calls es' (p.start 0)).map fun x => (x.1.make p x.2).1, (p.run es (p.start 0)).user))
      = some ([none, none, some ⟨.resourceExhausted, "rate limit exceeded"⟩, none], 3) := by
    decide +kernel
  cases hg : (Choices.of os).limits with
  | error e =>
    rw [hg] at hfinal
    cases hfinal
  | ok g =>
    rw [hg] at hfinal
    obtain ⟨hanswers, hcount⟩ := Prod.mk.inj (Option.some.inj hfinal)
    have hp : (({} : Builder Nat Unit).applyAll os).build = .ok ((Choices.of os).pipeline g) := by
      rw [Choices.applyAll_eq, Choices.build_builder, hg]
    have hos : ∀ e, .user e ∈ os → ∃ u t, e = .both u t ∧ v.Twins u t := by
      intro e he
      simp only [os, List.mem_cons, List.not_mem_nil, or_false, PipelineOption.user.injEq,
        reduceCtorEq, false_or] at he
      exact ⟨_, _, he, UserStage.tallying_agree fun _ _ h => congrArg (· + 1) h⟩
    have hmoved : ∀ k ∈ [one, held, sent], ∀ k' ∈ [one, held, sent], Call.Moved v k k' := by
      intro k hk k' hk'
      simp only [List.mem_cons, List.not_mem_nil, or_false] at hk hk'
      rcases hk with rfl | rfl | rfl <;> rcases hk' with rfl | rfl | rfl <;>
        exact ⟨rfl, ⟨rfl, rfl, rfl, rfl⟩, fun q q' st st' hq hs =>
          View.centre_alike Function.injective_id (fun r st st' hs => ⟨hs, .ok trivial⟩) hq hs⟩
    have hes : List.Forall₂ (Pipeline.Event.Related (Call.Moved v)) es es' :=
      .cons (.call (hmoved _ (by simp) _ (by simp))) <|
        .cons (.call (hmoved _ (by simp) _ (by simp))) <|
        .cons (.call (hmoved _ (by simp) _ (by simp))) <| .cons (.wait _) <|
        .cons (.call (hmoved _ (by simp) _ (by simp))) .nil
    obtain ⟨-, hruns⟩ := lanes_agree v os (fun a _ => v.heeds Function.injective_id a) hos hp
    exact ⟨_, hp, (hruns 0 0 {} rfl es es' hes).1, hanswers, hcount⟩

end

end Turnstile
