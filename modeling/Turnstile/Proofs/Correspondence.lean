import Mathlib.Data.List.Forall2
import Turnstile.Proofs.Containment

/-!
# Two chains side by side

To compare two chains is to say what of them is related, their states, their requests and their results,
and to see that each layer keeps it so. Two layers correspond if from related requests and states both
answer, with related results, or both pass related requests on and let related results out the same way.
Chains of layers that correspond do, and so do the gates of a pipeline around them.

* `Across`: what is related; `Layer.Corresponds`, `Corresponds`, for layers and for handlers.
* `Layer.fuse_corresponds`, `Layer.around_corresponds`: chains.
* `Parallel`: what is related across two lanes of a pipeline.
* `Gate.Paired`: two gates that do the same; `Gate.Paired.layer`, that they correspond.
* `Choices.Parallels`: what is related gives the gates of a pipeline nothing to tell apart.
-/

namespace Turnstile

/-! ## Layers and handlers that correspond -/

/-- What is related across two chains: states, the requests that are passed on, and results. Where it is
strict, what comes after a handler may depend on its result. -/
structure Across (S S' Q Q' R R' : Type) where
  state : S → S' → Prop
  request : Q → Q' → Prop
  result : R → R' → Prop
  strict : Prop

section

variable {S S' Q Q' R R' : Type} (K : Across S S' Q Q' R R')

/-- Two handlers do the same, up to what is related. -/
def Corresponds (h : Q → StateM S R) (h' : Q' → StateM S' R') : Prop :=
  ∀ ⦃q q' s s'⦄, K.request q q' → K.state s s' →
    K.state (h q s).2 (h' q' s').2 ∧ (K.strict → K.result (h q s).1 (h' q' s').1)

/-- Two ways out let related results out as related results. The states stay related also if the results
are not, unless it is strict. -/
structure Leaving (leave : R → StateM S R) (leave' : R' → StateM S' R') : Prop where
  state : ∀ {x x' s s'}, (K.strict → K.result x x') → K.state s s' →
    K.state (leave x s).2 (leave' x' s').2
  result : ∀ {x x' s s'}, K.result x x' → K.state s s' →
    K.result (leave x s).1 (leave' x' s').1

/-- What two layers do with a request is the same, up to what is related. -/
inductive Entered.Corresponds : Entered S Q R → Entered S' Q' R' → Prop
  | answered {x x'} (h : K.result x x') : Entered.Corresponds (.answered x) (.answered x')
  | passed {q q' leave leave'} (hq : K.request q q') (hl : Leaving K leave leave') :
    Entered.Corresponds (.passed q leave) (.passed q' leave')

/-- Two layers do the same with requests that are related in some way, up to what is related. -/
def Layer.Corresponds (coming : Q → Q' → Prop) (l : Layer S Q R) (l' : Layer S' Q' R') : Prop :=
  ∀ ⦃q q' s s'⦄, coming q q' → K.state s s' →
    Entered.Corresponds K (l.enter q s).1 (l'.enter q' s').1
      ∧ K.state (l.enter q s).2 (l'.enter q' s').2

variable {K}

theorem Leaving.idle : Leaving K (fun x s => (x, s)) (fun x s => (x, s)) :=
  ⟨fun _ hs => hs, fun hx _ => hx⟩

/-- One way out after another. -/
theorem Leaving.after {leave inner : R → StateM S R} {leave' inner' : R' → StateM S' R'}
    (hi : Leaving K inner inner') (hl : Leaving K leave leave') :
    Leaving K (fun x s => let (x, s) := inner x s; leave x s)
      (fun x s => let (x, s) := inner' x s; leave' x s) :=
  ⟨fun hx hs => hl.state (fun hstrict => hi.result (hx hstrict) hs) (hi.state hx hs),
    fun hx hs => hl.result (hi.result hx hs) (hi.state (fun _ => hx) hs)⟩

namespace Layer

variable {coming between : Q → Q' → Prop}

theorem idle_corresponds : (idle : Layer S Q R).Corresponds K K.request idle :=
  fun _ _ _ _ hq hs => ⟨.passed hq .idle, hs⟩

theorem before_corresponds {l l₁ : Layer S Q R} {l' l₁' : Layer S' Q' R'}
    (hl : l.Corresponds { K with request := between } coming l')
    (hl₁ : l₁.Corresponds K between l₁') :
    (l.before l₁).Corresponds K coming (l'.before l₁') := by
  intro q q' s s' hq hs
  obtain ⟨houter, hs₁⟩ := hl hq hs
  simp only [before]
  cases he : l.enter q s with
  | mk entered s₁ =>
    cases he' : l'.enter q' s' with
    | mk entered' s₁' =>
      rw [he, he'] at houter hs₁
      cases houter with
      | answered h => exact ⟨.answered h, hs₁⟩
      | @passed q₁ q₁' leave leave' hq₁ hleave =>
        obtain ⟨hinner, hs₂⟩ := hl₁ hq₁ hs₁
        have hleave : Leaving K leave leave' := ⟨hleave.state, hleave.result⟩
        dsimp only
        cases hi : l₁.enter q₁ s₁ with
        | mk entered₁ s₂ =>
          cases hi' : l₁'.enter q₁' s₁' with
          | mk entered₁' s₂' =>
            rw [hi, hi'] at hinner hs₂
            cases hinner with
            | answered h =>
              exact ⟨.answered (hleave.result h hs₂), hleave.state (fun _ => h) hs₂⟩
            | passed hq₂ hback => exact ⟨.passed hq₂ (hback.after hleave), hs₂⟩

/-- **Chains of layers that correspond** do as one layer, also outside of other layers that do with the
requests they are passed. -/
theorem fuse_corresponds {ls ls₁ : List (Layer S Q R)} {ls' ls₁' : List (Layer S' Q' R')}
    (h : List.Forall₂ (Layer.Corresponds { K with request := between } between) ls ls')
    (h₁ : (fuse ls₁).Corresponds K between (fuse ls₁')) :
    (fuse (ls ++ ls₁)).Corresponds K between (fuse (ls' ++ ls₁')) := by
  induction h with
  | nil => exact h₁
  | cons hl _ ih => exact before_corresponds hl ih

/-- Layers that correspond, around handlers that do, are handlers that do. -/
theorem around_corresponds {l : Layer S Q R} {l' : Layer S' Q' R'} (hl : l.Corresponds K coming l')
    {h : Q → StateM S R} {h' : Q' → StateM S' R'} (hh : Turnstile.Corresponds K h h') :
    Turnstile.Corresponds { K with request := coming } (l.around h) (l'.around h') := by
  intro q q' s s' hq hs
  obtain ⟨hentered, hs₁⟩ := hl hq hs
  unfold around
  cases he : l.enter q s with
  | mk entered s₁ =>
    cases he' : l'.enter q' s' with
    | mk entered' s₁' =>
      rw [he, he'] at hentered hs₁
      cases hentered with
      | answered h => exact ⟨hs₁, fun _ => h⟩
      | passed hq₁ hleave =>
        obtain ⟨hs₂, hresult⟩ := hh hq₁ hs₁
        exact ⟨hleave.state hresult hs₂, fun hstrict => hleave.result (hresult hstrict) hs₂⟩

end Layer

end

/-! ## Lanes -/

/-- Two outcomes are alike: results that are related, the same status, or the same panic. -/
inductive Outcome.Alike {ρ ρ' : Type} (f : ρ → ρ' → Prop) : Outcome ρ → Outcome ρ' → Prop
  | ok {a b} (h : f a b) : Alike f (.returned (.ok a)) (.returned (.ok b))
  | failed (s : Status) : Alike f (.returned (.error s)) (.returned (.error s))
  | panicked (payload : Option String) : Alike f (.panicked payload) (.panicked payload)

theorem Outcome.Alike.forget {ρ ρ' : Type} {f : ρ → ρ' → Prop} {o : Outcome ρ} {o' : Outcome ρ'}
    (h : o.Alike f o') : o.map (fun _ => ()) = o'.map (fun _ => ()) := by
  cases h <;> rfl

/-- What is related across two lanes, besides the clock and the buckets, which are the same: methods of
one name, the user's states, the requests, and, unless not even the identifiers of the requests are, the
supply that they come from. -/
structure Parallel (σ : Type) where
  method : Method → Method → Prop
  named : ∀ {m m'}, method m m' → m.fullName = m'.fullName
  user : σ → σ → Prop
  request : Request Payload → Request Payload → Prop
  minted : Prop
  strict : Prop

/-- Two states are level: the same clock, the same buckets, and what else is related of them. -/
structure Pipeline.State.Level {σ ν : Type} (user : σ → σ → Prop) (minted : Prop)
    (st st' : Pipeline.State σ ν) : Prop where
  clock : st.clock = st'.clock
  buckets : st.buckets = st'.buckets
  user : user st.user st'.user
  minted : minted → st.minted = st'.minted

namespace Parallel

variable {σ ν ρ ρ' : Type}

/-- Two states are the same up to what is related of them. -/
def Level (A : Parallel σ) (st st' : Pipeline.State σ ν) : Prop := st.Level A.user A.minted st'

/-- What is related across two lanes, by what is of their results. -/
def across (A : Parallel σ) (f : ρ → ρ' → Prop) :
    Across (Pipeline.State σ ν) (Pipeline.State σ ν) (Request Payload) (Request Payload)
      (Outcome ρ) (Outcome ρ') :=
  ⟨A.Level, A.request, Outcome.Alike f, A.strict⟩

/-- Requests stay related when they get their identifiers. -/
def Identifies (A : Parallel σ) : Prop :=
  ∀ ⦃r r' : Request Payload⦄ ⦃n n' : Mint⦄, A.request r r' → (A.minted → n = n') →
    let settled := RequestId.settle r.context.requestId r.metadata.requestId? n
    let settled' := RequestId.settle r'.context.requestId r'.metadata.requestId? n'
    A.request (r.updateContext fun c => { c with requestId := some settled.1 })
        (r'.updateContext fun c => { c with requestId := some settled'.1 })
      ∧ (A.minted → settled.2 = settled'.2)

/-- Requests stay related when they get their group. -/
def Groups (A : Parallel σ) : Prop :=
  ∀ ⦃r r' : Request Payload⦄ (group : String), A.request r r' →
    A.request (r.updateContext fun c => { c with group := some group })
      (r'.updateContext fun c => { c with group := some group })

/-- An authenticator decides the same about related requests in related states. -/
def Heeds (A : Parallel σ) (a : Authenticator σ ν) : Prop :=
  ∀ (name : String) ⦃r r' : Request Payload⦄ ⦃s s' : σ⦄, A.request r r' → A.user s s' →
    let answer := a name r.metadata r.context { state := s }
    let answer' := a name r'.metadata r'.context { state := s' }
    answer.1 = answer'.1 ∧ A.user answer.2.state answer'.2.state
      ∧ ∀ context, answer.1 = .accepted context → A.request { r with context } { r' with context }

end Parallel

section

variable {σ ν ρ ρ' : Type} (A : Parallel σ) (f : ρ → ρ' → Prop)

/-- Two stages of the user's do the same with a request: they answer alike, or they pass related requests
on, let alike outcomes out alike and leave related states. -/
inductive UserEntered.Agree : UserEntered σ ν ρ → UserEntered σ ν ρ' → Prop
  | answered {o o'} (h : Outcome.Alike f o o') : UserEntered.Agree (.answered o) (.answered o')
  | passed {q q' leave leave'} (hq : A.request q q')
      (hstate : ∀ {o o' s s'}, (A.strict → Outcome.Alike f o o') → A.user s s' →
        A.user (leave o { state := s }).2.state (leave' o' { state := s' }).2.state)
      (hresult : ∀ {o o' s s'}, Outcome.Alike f o o' → A.user s s' →
        Outcome.Alike f (leave o { state := s }).1 (leave' o' { state := s' }).1) :
    UserEntered.Agree (.passed q leave) (.passed q' leave')

/-- Two stages of the user's do the same. -/
def UserStage.Agree (u : UserStage σ ν ρ) (t : UserStage σ ν ρ') : Prop :=
  ∀ ⦃m m' : Method⦄ ⦃r r' : Request Payload⦄ ⦃s s' : σ⦄, A.method m m' →
    A.request r r' → A.user s s' →
    UserEntered.Agree A f (u.enter m r { state := s }).1 (t.enter m' r' { state := s' }).1
      ∧ A.user (u.enter m r { state := s }).2.state (t.enter m' r' { state := s' }).2.state

/-- A stage that lets everything through and keeps a tally of it. -/
def UserStage.tallying (tally : σ → σ) : UserStage σ ν ρ :=
  ⟨fun _ r own => (.passed r fun outcome own => (outcome, own),
    { own with state := tally own.state })⟩

variable {A f} in
theorem UserStage.tallying_agree {tally : σ → σ}
    (h : ∀ ⦃s s'⦄, A.user s s' → A.user (tally s) (tally s')) :
    (tallying tally : UserStage σ ν ρ).Agree A f (tallying tally : UserStage σ ν ρ') := by
  intro m m' r r' s s' _ hr hs
  exact ⟨.passed hr (fun _ hs => hs) fun ho _ => ho, h hs⟩

/-- Two gates that do the same. -/
inductive Gate.Paired : Gate σ ν ρ → Gate σ ν ρ' → Prop
  | recovery (metrics : Option Collector) (h : A.Identifies) :
    Gate.Paired (.recovery metrics) (.recovery metrics)
  | admission (a : Admission)
      (h : ∀ ⦃r r'⦄, A.request r r' → a.evaluateRequest r = a.evaluateRequest r') :
    Gate.Paired (.admission a) (.admission a)
  | rateLimit (g : RateGate) (h : A.Groups) : Gate.Paired (.rateLimit g) (.rateLimit g)
  | authentication (a : Authenticator σ ν) (h : A.Heeds a) :
    Gate.Paired (.authentication a) (.authentication a)
  | tagging (h : A.Identifies) : Gate.Paired .tagging .tagging
  | span : Gate.Paired .span .span
  | user {u : UserStage σ ν ρ} {t : UserStage σ ν ρ'} (h : u.Agree A f t) :
    Gate.Paired (.user u) (.user t)

end

namespace Pipeline.State.Level

variable {σ ν : Type} {user : σ → σ → Prop} {minted : Prop} {st st' : Pipeline.State σ ν}

/-- Reports make no difference. -/
theorem report (h : st.Level user minted st') (e e' : TraceEvent) :
    (st.report e).Level user minted (st'.report e') :=
  ⟨h.clock, h.buckets, h.user, h.minted⟩

theorem draw (h : st.Level user minted st') (buckets : Option Buckets) :
    { st with buckets }.Level user minted { st' with buckets } :=
  ⟨h.clock, rfl, h.user, h.minted⟩

/-- The user's code leaves states as related as it leaves its own. -/
theorem perform {α α' : Type} {act : StateM (Own σ ν) α} {act' : StateM (Own σ ν) α'}
    (h : st.Level user minted st')
    (hact : user (act { state := st.user }).2.state (act' { state := st'.user }).2.state) :
    (Pipeline.State.perform act st).2.Level user minted (Pipeline.State.perform act' st').2 :=
  ⟨h.clock, h.buckets, hact, h.minted⟩

theorem identify {A : Parallel σ} (h : st.Level A.user A.minted st') (hA : A.Identifies)
    {r r' : Request Payload} (hr : A.request r r') :
    A.request (ensureRequestId r st).1.2 (ensureRequestId r' st').1.2
      ∧ A.Level (ensureRequestId r st).2 (ensureRequestId r' st').2 := by
  obtain ⟨hrequest, hminted⟩ := hA hr h.minted
  rw [ensureRequestId_eq, ensureRequestId_eq]
  exact ⟨hrequest, h.clock, h.buckets, h.user, hminted⟩

end Pipeline.State.Level

namespace Gate

variable {σ ν ρ ρ' : Type} {A : Parallel σ} {f : ρ → ρ' → Prop} {m m' : Method}

/-- Recovery lets alike outcomes out alike. -/
theorem rescue_leaving (metrics : Option Collector) (id id' : RequestId) :
    Leaving (A.across f) (fun outcome (st : Pipeline.State σ ν) => rescue metrics m id (outcome, st))
      (fun outcome st => rescue metrics m' id' (outcome, st)) := by
  constructor
  · intro x x' st st' _ hs
    -- the report and the count of a panic are not among what is related
    cases x <;> cases x' <;> cases metrics <;> exact ⟨hs.clock, hs.buckets, hs.user, hs.minted⟩
  · intro x x' st st' hx _
    cases hx with
    | ok h => exact .ok h
    | failed s => exact .failed s
    | panicked payload => exact .failed .internal

theorem recoveryLayer_corresponds (metrics : Option Collector) (h : A.Identifies) :
    (recoveryLayer metrics m : LaneLayer σ ν ρ).Corresponds (A.across f) A.request
      (recoveryLayer metrics m') := by
  intro r r' st st' hr hs
  rw [recoveryLayer_enter, recoveryLayer_enter]
  obtain ⟨hrequest, hstate⟩ := hs.identify h hr
  exact ⟨.passed hrequest (rescue_leaving ..), hstate⟩

theorem admissionLayer_corresponds (a : Admission)
    (h : ∀ ⦃r r'⦄, A.request r r' → a.evaluateRequest r = a.evaluateRequest r') :
    (admissionLayer a m : LaneLayer σ ν ρ).Corresponds (A.across f) A.request
      (admissionLayer a m') := by
  intro r r' st st' hr hs
  simp only [admissionLayer, h hr]
  cases a.evaluateRequest r' with
  | true => exact ⟨.passed hr .idle, hs⟩
  | false => exact ⟨.answered (.failed _), hs.report _ _⟩

theorem rateLimitLayer_corresponds (g : RateGate) (hm : m.fullName = m'.fullName) (h : A.Groups) :
    (rateLimitLayer g m : LaneLayer σ ν ρ).Corresponds (A.across f) A.request
      (rateLimitLayer g m') := by
  intro r r' st st' hr hs
  have hcharge : g.charge st.clock m.fullName (st.buckets.getD (g.fresh st.clock))
      = g.charge st'.clock m'.fullName (st'.buckets.getD (g.fresh st'.clock)) := by
    rw [hm, hs.clock, hs.buckets]
  simp only [rateLimitLayer, hcharge]
  cases g.charge st'.clock m'.fullName (st'.buckets.getD (g.fresh st'.clock)) with
  | mk verdict buckets =>
    obtain ⟨allowed, group, opened⟩ := verdict
    have hdrawn : A.Level { st with buckets := some buckets } { st' with buckets := some buckets } :=
      hs.draw _
    cases allowed with
    | false =>
      refine ⟨.answered (.failed _), ?_⟩
      cases opened with
      | none => exact hdrawn.report _ _
      | some opened => exact (hdrawn.report _ _).report _ _
    | true =>
      constructor
      · cases group with
        | none => exact .passed hr .idle
        | some group => exact .passed (h group hr) .idle
      · cases opened with
        | none => cases group <;> exact hdrawn
        | some opened => cases group <;> exact hdrawn.report _ _

theorem authenticationLayer_corresponds {a : Authenticator σ ν} (hm : m.fullName = m'.fullName)
    (h : A.Heeds a) :
    (authenticationLayer a m : LaneLayer σ ν ρ).Corresponds (A.across f) A.request
      (authenticationLayer a m') := by
  intro r r' st st' hr hs
  obtain ⟨hanswer, huser, haccepted⟩ := h m'.fullName hr hs.user
  have hasked := hs.perform huser
  simp only [authenticationLayer, hm]
  cases hp : Pipeline.State.perform (a m'.fullName r.metadata r.context) st with
  | mk credential st₁ =>
    cases hp' : Pipeline.State.perform (a m'.fullName r'.metadata r'.context) st' with
    | mk credential' st₁' =>
      have hfst : credential = (a m'.fullName r.metadata r.context { state := st.user }).1 :=
        (congrArg Prod.fst hp).symm
      have hfst' : credential' = (a m'.fullName r'.metadata r'.context { state := st'.user }).1 :=
        (congrArg Prod.fst hp').symm
      rw [hp, hp'] at hasked
      rw [← hfst] at haccepted
      obtain rfl : credential = credential' := hfst.trans (hanswer.trans hfst'.symm)
      cases credential with
      | accepted context => exact ⟨.passed (haccepted context rfl) .idle, hasked⟩
      | refused s => exact ⟨.answered (.failed s), hasked⟩
      | failed error => exact ⟨.answered (.failed _), hasked.report _ _⟩
      | panicked payload => exact ⟨.answered (.panicked payload), hasked⟩

theorem userLayer_corresponds {u : UserStage σ ν ρ} {t : UserStage σ ν ρ'}
    (hm : A.method m m') (h : u.Agree A f t) :
    (userLayer u m).Corresponds (A.across f) A.request (userLayer t m') := by
  intro r r' st st' hr hs
  obtain ⟨hentered, huser⟩ := h hm hr hs.user
  have hacted := hs.perform huser
  simp only [userLayer]
  cases hp : Pipeline.State.perform (u.enter m r) st with
  | mk entered st₁ =>
    cases hp' : Pipeline.State.perform (t.enter m' r') st' with
    | mk entered' st₁' =>
      rw [hp, hp'] at hacted
      rw [show (u.enter m r { state := st.user }).1 = entered from congrArg Prod.fst hp,
        show (t.enter m' r' { state := st'.user }).1 = entered' from congrArg Prod.fst hp'] at hentered
      cases hentered with
      | answered ho => exact ⟨.answered ho, hacted⟩
      | passed hq hstate hresult =>
        refine ⟨.passed hq ⟨?_, ?_⟩, hacted⟩
        · intro o o' st₂ st₂' ho hs₂
          exact hs₂.perform (hstate ho hs₂.user)
        · intro o o' st₂ st₂' ho hs₂
          exact hresult ho hs₂.user

theorem Paired.layer {gate : Gate σ ν ρ} {gate' : Gate σ ν ρ'} (h : Gate.Paired A f gate gate')
    (hm : A.method m m') :
    (gate.layer m).Corresponds (A.across f) A.request (gate'.layer m') := by
  cases h with
  | recovery metrics h => exact recoveryLayer_corresponds metrics h
  | admission a h => exact admissionLayer_corresponds a h
  | rateLimit g h => exact rateLimitLayer_corresponds g (A.named hm) h
  | authentication a h => exact authenticationLayer_corresponds (A.named hm) h
  | tagging h =>
    intro r r' st st' hr hs
    obtain ⟨hrequest, hstate⟩ := hs.identify h hr
    exact ⟨.passed hrequest .idle, hstate⟩
  | span => exact fun _ _ _ _ hr hs => ⟨.passed hr .idle, hs.report _ _⟩
  | user h => exact userLayer_corresponds hm h

end Gate

/-! ## The gates of a pipeline -/

/-- What the gates of some choices look at is the same in related requests and states. -/
structure Choices.Parallels {σ ν : Type} (c : Choices σ ν) (A : Parallel σ) : Prop where
  identifies : c.recovery = true ∨ c.requestId = true → A.Identifies
  groups : A.Groups
  admits : ∀ a, c.admission = some a →
    ∀ ⦃r r'⦄, A.request r r' → a.evaluateRequest r = a.evaluateRequest r'
  heeds : ∀ a, c.authenticator = some a → A.Heeds a

/-- The gates of both lanes do the same. -/
theorem Choices.Parallels.gates {σ ν ρ ρ' : Type} {c : Choices σ ν} {A : Parallel σ}
    (h : c.Parallels A) (f : ρ → ρ' → Prop) (g : Option RateGate) :
    List.Forall₂ (Gate.Paired A f) (c.gates g : List (Gate σ ν ρ)) (c.gates g) := by
  have hflag : ∀ {gate : Gate σ ν ρ} {gate' : Gate σ ν ρ'} (b : Bool),
      (b = true → Gate.Paired A f gate gate') →
      List.Forall₂ (Gate.Paired A f) (if b then [gate] else []) (if b then [gate'] else []) := by
    intro gate gate' b hb
    cases b with
    | false => exact .nil
    | true => exact .cons (hb rfl) .nil
  have hoption : ∀ {β : Type} {gate : β → Gate σ ν ρ} {gate' : β → Gate σ ν ρ'} (o : Option β),
      (∀ b, o = some b → Gate.Paired A f (gate b) (gate' b)) →
      List.Forall₂ (Gate.Paired A f) (o.map gate).toList (o.map gate').toList := by
    intro β gate gate' o ho
    cases o with
    | none => exact .nil
    | some b => exact .cons (ho b rfl) .nil
  unfold Choices.gates
  refine List.rel_append (List.rel_append (List.rel_append (List.rel_append ?_ ?_) ?_) ?_) ?_
  · exact hflag _ fun hr => .recovery _ (h.identifies (.inl hr))
  · exact hoption _ fun a ha => .admission a (h.admits a ha)
  · exact hoption _ fun g _ => .rateLimit g h.groups
  · exact hoption _ fun a ha => .authentication a (h.heeds a ha)
  · refine hflag _ fun ht => .tagging (h.identifies ?_)
    simpa using ht

end Turnstile
