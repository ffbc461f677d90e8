import Turnstile.Proofs.Correspondence

/-!
# Calls and runs side by side

Two calls whose lanes do the same get equally far: both are answered alike on the way in, or related
requests are handed to their handlers. If the handlers do the same too, related states come of the calls,
and so they do of whole runs.

* `Call.reach`: how far a call gets, and `Call.run_of_answered`, `Call.run_of_handed`, what this says of
  its lane around any handler.
* `Call.treated`: two calls on lanes that do the same.
* `Call.make_spends`: what a call takes whatever is done with it further in.
* `Pipeline.runs_related`: two runs of the same waits and related calls.
* `View`: what of states and messages there is to see, where two calls or runs are to look the same.
-/

namespace Turnstile

/-! ## Calls -/

namespace Call

variable {σ ν : Type}

/-- What the lane of a call results in. -/
def Result : Call σ ν → Type
  | @unary _ _ _ _ _ _ _ _ _ => Reply Payload
  | @stream _ _ _ _ _ _ _ => Unit
  | @serverStream _ _ _ _ _ _ _ => Unit

/-- The lane of a call. -/
def lane (p : Pipeline σ ν) : (k : Call σ ν) → List (Gate σ ν k.Result)
  | @unary _ _ _ _ _ _ _ _ _ => p.unary
  | @stream _ _ _ _ _ _ _ => p.stream
  | @serverStream _ _ _ _ _ _ _ => p.stream

/-- What a stage is on the lane of a call. -/
def part : (k : Call σ ν) → PipelineStage σ ν → Option (Gate σ ν k.Result)
  | @unary _ _ _ _ _ _ _ _ _, s => s.onUnary?
  | @stream _ _ _ _ _ _ _, s => s.onStream?
  | @serverStream _ _ _ _ _ _ _, s => s.onStream?

/-- The stages of some choices that are on the lane of a call. -/
def stages (c : Choices σ ν) (k : Call σ ν) : List (Gate σ ν k.Result) := c.stages.filterMap k.part

/-- The stages that options add are spans and the stages of the user's among them. -/
theorem mem_stages {os : List (PipelineOption σ ν)} {s : PipelineStage σ ν}
    (h : s ∈ (Choices.of os).stages) :
    s = .both .span .span ∨ ∃ e, .user e ∈ os ∧ s = e.toStage := by
  obtain ⟨o, ho, hs⟩ := List.mem_filterMap.mp h
  cases o with
  | span => exact .inl (Option.some.inj hs).symm
  | user e => exact .inr ⟨e, ho, (Option.some.inj hs).symm⟩
  | recovery | requestId | admission | rateLimit | resolver | authentication | metrics | cache =>
    cases hs

/-- The gates of a pipeline stand around its stages. -/
theorem lane_pipeline (c : Choices σ ν) (g : Option RateGate) (k : Call σ ν) :
    k.lane (c.pipeline g) = c.gates g ++ k.stages c := by
  cases k <;> rfl

/-- The lane of a call as one layer. -/
def layers (p : Pipeline σ ν) (k : Call σ ν) : Gate.LaneLayer σ ν k.Result :=
  Layer.fuse ((k.lane p).map (Gate.layer k.method))

/-- The handler of a call at the centre of its lane. -/
def handling : (k : Call σ ν) → Request Payload → StateM (Pipeline.State σ ν) (Outcome k.Result)
  | @unary _ _ _ _ _ _ m _ handler => Pipeline.centre m (Pipeline.answering handler)
  | @stream _ _ _ _ m _ handler => Pipeline.centre m fun r => Pipeline.State.perform (handler r)
  | @serverStream _ _ _ _ m _ handler => Pipeline.centre m (Pipeline.producer handler)

/-- The state in which the lane of a call is entered. -/
def ready : Call σ ν → Pipeline.State σ ν → Pipeline.State σ ν
  | @unary _ _ _ _ _ _ _ _ _, st => st
  | @stream _ _ _ _ _ _ _, st => st
  | @serverStream _ _ _ _ _ _ _, st => { st with outbox := none }

/-- How far a call gets on the way in: some layer answers it, or the request that it has become is handed
to the handler. -/
def reach (p : Pipeline σ ν) (k : Call σ ν) (st : Pipeline.State σ ν) :
    Except (Outcome Unit) (Request Payload) :=
  match ((k.layers p).enter k.request (k.ready st)).1 with
  | .answered outcome => .error (outcome.map fun _ => ())
  | .passed q _ => .ok q

/-- The lane of a call around its handler. -/
def traverse (p : Pipeline σ ν) (k : Call σ ν) (st : Pipeline.State σ ν) :
    Outcome k.Result × Pipeline.State σ ν :=
  Gate.run (k.lane p) k.method k.handling k.request (k.ready st)

end Call

/-- No time has passed, no token was taken and no identifier minted. -/
structure Pipeline.State.Unspent {σ ν : Type} (st st' : Pipeline.State σ ν) : Prop where
  clock : st'.clock = st.clock
  buckets : st'.buckets = st.buckets
  minted : st'.minted = st.minted

/-- The two states differ at most in accounts, reports and the outbox. -/
structure Pipeline.State.Beside {σ ν : Type} (st st' : Pipeline.State σ ν) : Prop
    extends st.Unspent st' where
  user : st'.user = st.user

namespace Pipeline.State

variable {σ ν : Type}

namespace Beside

theorem refl (st : Pipeline.State σ ν) : st.Beside st := ⟨⟨rfl, rfl, rfl⟩, rfl⟩

theorem trans {a b c : Pipeline.State σ ν} (h : a.Beside b) (h' : b.Beside c) : a.Beside c :=
  ⟨⟨h'.clock.trans h.clock, h'.buckets.trans h.buckets, h'.minted.trans h.minted⟩,
    h'.user.trans h.user⟩

theorem report (e : TraceEvent) (st : Pipeline.State σ ν) : st.Beside (st.report e) :=
  ⟨⟨rfl, rfl, rfl⟩, rfl⟩

/-- Accounts. -/
theorem record {ρ : Type} (p : Pipeline σ ν) (m : Method) (o : Outcome ρ) (st : Pipeline.State σ ν) :
    st.Beside (p.recordTime m (p.recordOutcome m o st)) := by
  unfold recordTime recordOutcome
  cases o <;> cases p.metrics <;> exact ⟨⟨rfl, rfl, rfl⟩, rfl⟩

end Beside

section

variable {user : σ → σ → Prop} {minted : Prop} {a b a' b' : Pipeline.State σ ν}

/-- Where nothing is spent, only the user's states can come apart. -/
theorem Level.unspent (h : a.Level user minted b) (ha : a.Unspent a') (hb : b.Unspent b')
    (hu : user a'.user b'.user) : a'.Level user minted b' := by
  refine ⟨?_, ?_, hu, ?_⟩
  · rw [ha.clock, hb.clock]
    exact h.clock
  · rw [ha.buckets, hb.buckets]
    exact h.buckets
  · rw [ha.minted, hb.minted]
    exact h.minted

/-- What happens beside two states makes no difference between them. -/
theorem Level.beside (h : a.Level user minted b) (ha : a.Beside a') (hb : b.Beside b') :
    a'.Level user minted b' := by
  refine h.unspent ha.toUnspent hb.toUnspent ?_
  rw [ha.user, hb.user]
  exact h.user

end

end Pipeline.State

open Pipeline.State (Beside Unspent)

namespace Call

variable {σ ν : Type}

/-- Handlers act on the user's state. -/
theorem handling_unspent (k : Call σ ν) (q : Request Payload) (st : Pipeline.State σ ν) :
    st.Unspent (k.handling q st).2 := by
  have hreport : ∀ e, ∀ st : Pipeline.State σ ν, st.Unspent (st.report e) := fun _ _ => ⟨rfl, rfl, rfl⟩
  cases k with
  | unary m r handler =>
    exact Pipeline.centre_keeps hreport m (fun r st => ⟨rfl, rfl, rfl⟩) q st
  | stream m r handler =>
    exact Pipeline.centre_keeps hreport m (fun r st => ⟨rfl, rfl, rfl⟩) q st
  | serverStream m r handler =>
    exact Pipeline.centre_keeps hreport m (fun r st => ⟨rfl, rfl, rfl⟩) q st

/-- Around its lane a call does nothing but accounts, reports and the outbox. -/
theorem make_beside (p : Pipeline σ ν) (k : Call σ ν) (st : Pipeline.State σ ν) :
    (k.traverse p st).2.Beside (k.make p st).2 := by
  cases k with
  | unary m r handler =>
    simp only [make, Pipeline.callUnary_eq]
    exact (Pipeline.restoreReply_keeps Beside.refl Beside.report m _ _).trans (.record ..)
  | stream m r handler =>
    simp only [make, Pipeline.callStream_eq]
    exact .record ..
  | serverStream m r handler =>
    let called := p.callStream m r (Pipeline.producer handler) { st with outbox := none }
    have hcalled : ((serverStream m r handler).traverse p st).2.Beside called.2 := .record ..
    have hanswered := hcalled.trans
      (Pipeline.delivered_keeps Beside.refl Beside.report m called.2.outbox called.1 called.2)
    exact ⟨⟨hanswered.clock, hanswered.buckets, hanswered.minted⟩, hanswered.user⟩

section

variable {p : Pipeline σ ν} {k : Call σ ν} {st : Pipeline.State σ ν}

theorem run_lane (p : Pipeline σ ν) (k : Call σ ν) :
    Gate.run (k.lane p) k.method = (k.layers p).around := by
  funext handler
  exact Layer.chain_eq_around _ handler

/-- A call that is answered on its way in is answered so whatever its handler. -/
theorem run_of_answered {o : Outcome Unit} (h : k.reach p st = .error o) :
    ∃ outcome st₁, outcome.map (fun _ => ()) = o ∧ st₁.outbox = (k.ready st).outbox
      ∧ ∀ handler, Gate.run (k.lane p) k.method handler k.request (k.ready st) = (outcome, st₁) := by
  have hlane : (k.layers p).Steadfast Gate.SameOutbox := by
    refine Layer.fuse_steadfast Gate.SameOutbox.kept.refl Gate.SameOutbox.kept.trans ?_
    intro l hl
    obtain ⟨gate, -, rfl⟩ := List.mem_map.mp hl
    exact Gate.layer_outbox gate k.method
  have hin := hlane.enter k.request (k.ready st)
  rw [run_lane]
  unfold reach at h
  unfold Layer.around
  cases he : (k.layers p).enter k.request (k.ready st) with
  | mk entered st₁ =>
    rw [he] at h hin
    cases entered with
    | passed q leave => cases h
    | answered outcome => exact ⟨outcome, st₁, Except.error.inj h, hin, fun _ => rfl⟩

/-- A call that is not answered on its way in hands the request that it has become to its handler, and
what comes of the lane comes of what the handler then does. -/
theorem run_of_handed {q : Request Payload} (h : k.reach p st = .ok q) :
    ∃ st₁ : Pipeline.State σ ν,
      ∃ leave : Outcome k.Result → StateM (Pipeline.State σ ν) (Outcome k.Result),
        ∀ handler, Gate.run (k.lane p) k.method handler k.request (k.ready st)
          = let (outcome, st₂) := handler q st₁
            leave outcome st₂ := by
  rw [run_lane]
  unfold reach at h
  unfold Layer.around
  cases he : (k.layers p).enter k.request (k.ready st) with
  | mk entered st₁ =>
    rw [he] at h
    cases entered with
    | answered outcome => cases h
    | passed q' leave =>
      obtain rfl := Except.ok.inj h
      exact ⟨st₁, leave, fun _ => rfl⟩

/-- A call that is answered on its way in with a status fails with it. -/
theorem make_of_reach {s : Status} (h : k.reach p st = .error (.failed s)) :
    (k.make p st).1 = some s := by
  obtain ⟨outcome, st₁, hforget, hout, hrun⟩ := run_of_answered h
  have houtcome : outcome = .failed s := by
    cases outcome with
    | panicked payload => cases hforget
    | returned result =>
      cases result with
      | ok x => cases hforget
      | error s' =>
        cases hforget
        rfl
  have hlane := hrun k.handling
  rw [houtcome] at hlane
  cases k with
  | unary m r handler =>
    have hfailed : (Gate.run p.unary m (Pipeline.centre m (Pipeline.answering handler))
        (r.map Message.toPayload) st).1 = .failed s := congrArg Prod.fst hlane
    simp only [make, Pipeline.callUnary_eq, hfailed]
    rfl
  | stream m r handler =>
    have hfailed : (Gate.run p.stream m
        (Pipeline.centre m fun r => Pipeline.State.perform (handler r))
        (r.map Message.toPayload) st).1 = .failed s := congrArg Prod.fst hlane
    simp only [make, Pipeline.callStream_eq, hfailed]
    rfl
  | serverStream m r handler =>
    let called := p.callStream m r (Pipeline.producer handler) { st with outbox := none }
    have hnone : called.2.outbox = none :=
      (Exchange.account_outbox p m ((serverStream m r handler).traverse p st)).trans
        ((congrArg (fun x => x.2.outbox) hlane).trans hout)
    have hcalled : called.1 = .failed s := congrArg Prod.fst hlane
    simp only [make, Pipeline.callServerStream_of_failed hcalled hnone]
    rfl

end

end Call

/-! ## Two calls -/

/-- Two calls get equally far: they are answered alike on the way in, or related requests are handed to
their handlers. -/
inductive Parallel.Reached {σ : Type} (A : Parallel σ) :
    Except (Outcome Unit) (Request Payload) → Except (Outcome Unit) (Request Payload) → Prop
  | answered (o : Outcome Unit) : Parallel.Reached A (.error o) (.error o)
  | handed {q q' : Request Payload} (h : A.request q q') : Parallel.Reached A (.ok q) (.ok q')

namespace Call

variable {σ ν : Type} {p : Pipeline σ ν} {A : Parallel σ}
  {coming : Request Payload → Request Payload → Prop} {k k' : Call σ ν} {f : k.Result → k'.Result → Prop}

/-- The handlers of two calls do the same with the user's state. -/
def Handled (A : Parallel σ) (k k' : Call σ ν) (f : k.Result → k'.Result → Prop) : Prop :=
  ∀ ⦃q q' st st'⦄, A.request q q' → A.user st.user st'.user →
    A.user (k.handling q st).2.user (k'.handling q' st').2.user
      ∧ (A.strict → (k.handling q st).1.Alike f (k'.handling q' st').1)

theorem Handled.corresponds (h : Handled A k k' f) :
    Corresponds (A.across f) k.handling k'.handling := by
  intro q q' st st' hq hs
  obtain ⟨huser, hresult⟩ := h hq hs.user
  exact ⟨hs.unspent (k.handling_unspent q st) (k'.handling_unspent q' st') huser, hresult⟩

/-- The lanes of two calls do the same if the gates give requests nothing to tell apart and the stages do
the same. -/
theorem layers_correspond {c : Choices σ ν} (hm : A.method k.method k'.method)
    (hgates : c.Parallels { A with request := coming })
    (hstages : ∀ s ∈ c.stages, Option.Rel (Gate.Paired A f) (k.part s) (k'.part s))
    (hcoming : ∀ ⦃r r'⦄, coming r r' → A.request r r') (g : Option RateGate) :
    (k.layers (c.pipeline g)).Corresponds (A.across f) coming (k'.layers (c.pipeline g)) := by
  have hinner : (Layer.fuse ((k.stages c).map (Gate.layer k.method))).Corresponds (A.across f)
      A.request (Layer.fuse ((k'.stages c).map (Gate.layer k'.method))) := by
    have hpaired : List.Forall₂ (Gate.Paired A f) (k.stages c) (k'.stages c) := by
      refine List.rel_filterMap (R := fun s s' => s ∈ c.stages ∧ s = s') ?_ ?_
      · rintro s s' ⟨hs, rfl⟩
        exact hstages s hs
      · exact List.forall₂_same.mpr fun s hs => ⟨hs, rfl⟩
    have hlayers : List.Forall₂ (Layer.Corresponds (A.across f) A.request)
        ((k.stages c).map (Gate.layer k.method)) ((k'.stages c).map (Gate.layer k'.method)) := by
      rw [List.forall₂_map_left_iff, List.forall₂_map_right_iff]
      exact hpaired.imp fun _ _ h => h.layer hm
    have hinnermost : (Layer.fuse ([] : List (Gate.LaneLayer σ ν k.Result))).Corresponds (A.across f)
        A.request (Layer.fuse []) := Layer.idle_corresponds
    simpa only [List.append_nil] using Layer.fuse_corresponds hlayers hinnermost
  unfold layers
  rw [lane_pipeline, lane_pipeline, List.map_append, List.map_append]
  refine Layer.fuse_corresponds ?_ fun q q' s s' hr hs => hinner (hcoming hr) hs
  rw [List.forall₂_map_left_iff, List.forall₂_map_right_iff]
  exact (hgates.gates f g).imp fun _ _ h => h.layer hm

/-- **Two calls on lanes that do the same** get equally far, and if their handlers do the same too, the
states stay related. -/
theorem corresponds (hl : (k.layers p).Corresponds (A.across f) coming (k'.layers p))
    (hr : coming k.request k'.request) {st st' : Pipeline.State σ ν} (hs : A.Level st st') :
    A.Reached (k.reach p st) (k'.reach p st')
      ∧ (Handled A k k' f → A.Level (k.make p st).2 (k'.make p st').2) := by
  have hready : A.Level (k.ready st) (k'.ready st') := by
    cases k <;> cases k' <;> exact ⟨hs.clock, hs.buckets, hs.user, hs.minted⟩
  constructor
  · obtain ⟨hentered, -⟩ := hl hr hready
    unfold reach
    generalize ((k.layers p).enter k.request (k.ready st)).1 = e at hentered
    generalize ((k'.layers p).enter k'.request (k'.ready st')).1 = e' at hentered
    cases hentered with
    | answered h =>
      have hsame := Outcome.Alike.forget h
      dsimp only
      rw [hsame]
      exact .answered _
    | passed hq hleave => exact .handed hq
  · intro hh
    obtain ⟨hlevel, -⟩ := Layer.around_corresponds hl hh.corresponds hr hready
    rw [← run_lane, ← run_lane] at hlevel
    exact hlevel.beside (k.make_beside p st) (k'.make_beside p st')

end Call

/-- A pipeline treats two calls alike, each with the state in which it is made: they get equally far, and
if they are rejected with a status on the way in, both fail with it. -/
structure Parallel.Treated {σ ν : Type} (A : Parallel σ) (p : Pipeline σ ν)
    (x x' : Call σ ν × Pipeline.State σ ν) : Prop where
  reached : A.Reached (x.1.reach p x.2) (x'.1.reach p x'.2)
  rejected : ∀ s, x.1.reach p x.2 = .error (.failed s) →
    (x.1.make p x.2).1 = some s ∧ (x'.1.make p x'.2).1 = some s

/-- Calls that get equally far are treated alike. -/
theorem Parallel.Reached.treated {σ ν : Type} {A : Parallel σ} {p : Pipeline σ ν}
    {x x' : Call σ ν × Pipeline.State σ ν} (h : A.Reached (x.1.reach p x.2) (x'.1.reach p x'.2)) :
    A.Treated p x x' := by
  refine ⟨h, fun s hs => ⟨Call.make_of_reach hs, Call.make_of_reach ?_⟩⟩
  rw [hs] at h
  generalize x'.1.reach p x'.2 = reached at h
  cases h
  rfl

/-- **Two calls of a pipeline** with requests that its gates and stages do not tell apart are treated
alike, and if their handlers do the same too, the states stay related. Gates may rely on more of the
requests than stages. -/
theorem Call.treated {σ ν : Type} {A : Parallel σ} {coming : Request Payload → Request Payload → Prop}
    {c : Choices σ ν} {k k' : Call σ ν} {f : k.Result → k'.Result → Prop}
    (hm : A.method k.method k'.method) (hgates : c.Parallels { A with request := coming })
    (hstages : ∀ s ∈ c.stages, Option.Rel (Gate.Paired A f) (k.part s) (k'.part s))
    (hcoming : ∀ ⦃r r'⦄, coming r r' → A.request r r') (hr : coming k.request k'.request)
    (g : Option RateGate) {st st' : Pipeline.State σ ν} (hs : A.Level st st') :
    A.Treated (c.pipeline g) (k, st) (k', st')
      ∧ (Handled A k k' f →
        A.Level (k.make (c.pipeline g) st).2 (k'.make (c.pipeline g) st').2) := by
  obtain ⟨hreached, hlevel⟩ :=
    corresponds (layers_correspond hm hgates hstages hcoming g) hr hs
  exact ⟨hreached.treated, hlevel⟩

/-! ## What gates decide -/

section

variable {σ ν : Type}

/-- Methods of one name draw the same. -/
theorem Gate.drawn_eq {m m' : Method} (hm : m.fullName = m'.fullName) (g : Option RateGate)
    (now : Nat) (buckets : Option Buckets) : drawn g now buckets m = drawn g now buckets m' := by
  unfold drawn
  rw [hm]

/-- Requests that admission does not tell apart are blocked alike. -/
theorem Choices.blocks_eq {c : Choices σ ν} {r r' : Request Payload}
    (h : ∀ a, c.admission = some a → a.evaluateRequest r = a.evaluateRequest r') :
    c.blocks r = c.blocks r' := by
  unfold blocks
  cases ha : c.admission with
  | none => rfl
  | some a =>
    simp only [Option.any_some]
    rw [h a ha]

/-- What a call takes, whatever its stages and its handler do: no time, and a token exactly if admission
lets it through. -/
theorem Call.make_spends (os : List (PipelineOption σ ν)) (g : Option RateGate) (k : Call σ ν)
    (st : Pipeline.State σ ν) :
    let c := Choices.of os
    (k.make (c.pipeline g) st).2.clock = st.clock
      ∧ (k.make (c.pipeline g) st).2.buckets
        = if c.blocks k.request then st.buckets
          else (Gate.drawn g st.clock st.buckets k.method).2 := by
  intro c
  obtain ⟨hus, hts⟩ := Choices.stages_discreet os
  have hrules : c.Rules g (c.pipeline g) := ⟨c.gates_govern g _, c.gates_govern g _⟩
  have hsettled := k.make_settles hrules hus hts k.discreet_unit st
  exact ⟨hsettled.clock, hsettled.buckets.trans (c.ruling_buckets g k.method k.request st)⟩

end

/-! ## Two runs -/

namespace Pipeline

variable {σ ν : Type}

/-- Two events that are the same wait, or calls that are related. -/
inductive Event.Related (C : Call σ ν → Call σ ν → Prop) : Event σ ν → Event σ ν → Prop
  | wait (nanos : Nat) : Event.Related C (.wait nanos) (.wait nanos)
  | call {k k' : Call σ ν} (h : C k k') : Event.Related C (.call k) (.call k')

theorem Event.Related.imp {C C' : Call σ ν → Call σ ν → Prop} {e e' : Event σ ν}
    (h : Event.Related C e e') (hC : ∀ {k k'}, C k k' → C' k k') : Event.Related C' e e' := by
  cases h with
  | wait nanos => exact .wait nanos
  | call h => exact .call (hC h)

/-- What waits and related calls keep between two states holds wherever two runs make corresponding
calls, and after every step. -/
theorem runs_related {p : Pipeline σ ν} {C : Call σ ν → Call σ ν → Prop}
    {L : State σ ν → State σ ν → Prop}
    (hwait : ∀ nanos {st st'}, L st st' → L (st.advance nanos) (st'.advance nanos))
    (hcall : ∀ {k k' st st'}, C k k' → L st st' → L (k.make p st).2 (k'.make p st').2)
    {es es' : List (Event σ ν)} (h : List.Forall₂ (Event.Related C) es es') {st st' : State σ ν}
    (hs : L st st') :
    List.Forall₂ (fun x x' => C x.1 x'.1 ∧ L x.2 x'.2) (p.calls es st) (p.calls es' st')
      ∧ ∀ n, L (p.run (es.take n) st) (p.run (es'.take n) st') := by
  induction h generalizing st st' with
  | nil => exact ⟨.nil, fun n => by rwa [List.take_nil]⟩
  | cons he _ ih =>
    cases he with
    | wait nanos =>
      obtain ⟨hcalls, hsteps⟩ := ih (hwait nanos hs)
      refine ⟨hcalls, fun n => ?_⟩
      cases n with
      | zero => exact hs
      | succ n => exact hsteps n
    | call h =>
      obtain ⟨hcalls, hsteps⟩ := ih (hcall h hs)
      refine ⟨.cons ⟨h, hs⟩ hcalls, fun n => ?_⟩
      cases n with
      | zero => exact hs
      | succ n => exact hsteps n

theorem State.Level.advance {user : σ → σ → Prop} {minted : Prop} {st st' : State σ ν}
    (h : st.Level user minted st') (nanos : Nat) :
    (st.advance nanos).Level user minted (st'.advance nanos) :=
  ⟨congrArg (· + nanos) h.clock, h.buckets, h.user, h.minted⟩

end Pipeline

/-! ## Views -/

/-- What of the user's states and of messages there is to see, where two calls or runs are to look the
same. Where it is strict, the results of handlers are seen by the stages too. -/
structure View (σ : Type) where
  Seen : Type
  Read : Type
  state : σ → Seen
  message : Payload → Read
  strict : Prop

end Turnstile
