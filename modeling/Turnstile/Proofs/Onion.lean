import Turnstile.Proofs.Correspondence

/-!
# The order of what a call does

A call goes inwards through the stages of a lane as long as they pass the request on, and comes back out
through those that did. To see this, every stage and the handler are put under watch: whenever one of
them has acted, it is written down which one it was and what it added to a log. Watching changes nothing
of the call. What has been written down in the end has the form of an onion, and read without the names
it is what the call has added to the log.

* `Sight`, `Sight.onion`: what is written down, and the form that it has.
* `Layer.watch`, `Layer.watchChain`: layers and chains under watch.
* `Layer.watchChain_eq`: watching changes nothing, and an onion is seen.
* `Layer.Twin`: layers that behave alike, on lanes whose results differ.
* `lanes_nest`: the lanes of pipelines, for all stages, handlers and calls.
-/

namespace Turnstile

/-! ## Sights -/

/-- What is seen of an act in a call, with what it wrote: a stage on its way in, which passed the request
on or did not, the handler, or a stage on its way out. The outermost stage has number zero. -/
inductive Sight (ε : Type) where
  | entered (stage : Nat) (passed : Bool) (events : List ε)
  | handled (events : List ε)
  | left (stage : Nat) (events : List ε)
  deriving DecidableEq, Repr

namespace Sight

variable {ε : Type}

/-- What was written. -/
def events : Sight ε → List ε
  | .entered _ _ es => es
  | .handled es => es
  | .left _ es => es

/-- The stage that acted, if it was a stage. -/
def stage? : Sight ε → Option Nat
  | .entered i _ _ => some i
  | .handled _ => none
  | .left i _ => some i

/-- Whether it was the handler that acted. -/
def isHandled : Sight ε → Bool
  | .handled _ => true
  | _ => false

/-- What is seen of a call that comes to `n` stages, numbered from `first`. Those that pass the request on
write `ins` on the way in and `outs` on the way out, in the opposite order; between the two there is the
stage that does not pass it on, or the handler. -/
def onion (first n : Nat) (ins : List (List ε)) (core : List ε) (outs : List (List ε)) :
    List (Sight ε) :=
  (ins.zipIdx first).map (fun x => .entered x.2 true x.1)
    ++ (if ins.length < n then .entered (first + ins.length) false core else .handled core)
    :: ((outs.zipIdx first).map fun x => .left x.2 x.1).reverse

theorem onion_cons (first n : Nat) (i core o : List ε) (ins outs : List (List ε)) :
    onion first (n + 1) (i :: ins) core (o :: outs)
      = .entered first true i :: onion (first + 1) n ins core outs ++ [.left first o] := by
  have hplace : first + (ins.length + 1) = first + 1 + ins.length := by omega
  simp [onion, List.zipIdx_cons, hplace]

/-- The handler acts once, or not at all if a stage did not pass the request on. -/
theorem countP_onion (first n : Nat) (ins : List (List ε)) (core : List ε) (outs : List (List ε)) :
    (onion first n ins core outs).countP isHandled = if ins.length < n then 0 else 1 := by
  have hin : ((ins.zipIdx first).map fun x => Sight.entered x.2 true x.1).countP isHandled = 0 := by
    simp [List.countP_map, isHandled, Function.comp_def]
  have hout : (((outs.zipIdx first).map fun x => Sight.left x.2 x.1).reverse).countP isHandled = 0 := by
    simp [List.countP_map, isHandled, Function.comp_def]
  rw [onion, List.countP_append, List.countP_cons, hin, hout]
  split <;> rfl

/-- No stage behind the one that did not pass the request on acts. -/
theorem stage_le_of_mem_onion {first n : Nat} {ins outs : List (List ε)} {core : List ε}
    (hlen : ins.length = outs.length) {x : Sight ε} (hx : x ∈ onion first n ins core outs) {i : Nat}
    (hi : x.stage? = some i) : i ≤ first + ins.length := by
  rw [onion, List.mem_append, List.mem_cons, List.mem_reverse] at hx
  rcases hx with hx | rfl | hx
  · obtain ⟨⟨es, j⟩, hj, rfl⟩ := List.mem_map.mp hx
    obtain rfl := Option.some.inj hi
    exact Nat.le_of_lt (by simpa [Nat.add_comm] using List.snd_lt_add_of_mem_zipIdx hj)
  · split at hi
    · exact Nat.le_of_eq (Option.some.inj hi).symm
    · cases hi
  · obtain ⟨⟨es, j⟩, hj, rfl⟩ := List.mem_map.mp hx
    obtain rfl := Option.some.inj hi
    exact Nat.le_of_lt (by simpa [Nat.add_comm, hlen] using List.snd_lt_add_of_mem_zipIdx hj)

end Sight

/-! ## Chains under watch -/

section

variable {S Q R R' ε α : Type}

/-- Whether a layer passes a request on. -/
def Entered.isPassed : Entered S Q R → Bool
  | .answered _ => false
  | .passed _ _ => true

variable (log : S → List ε)

/-- An act under watch: what it adds to the log is seen. -/
def watchAct (sight : α → List ε → Sight ε) (act : StateM S α) : StateM (S × List (Sight ε)) α :=
  fun w =>
    ((act w.1).1, (act w.1).2,
      w.2 ++ [sight (act w.1).1 ((log (act w.1).2).drop (log w.1).length)])

/-- An act only adds to the log. -/
def Appends (act : StateM S α) : Prop := Keeps (fun s s' => log s <+: log s') act

/-- What has been seen since is what has been added to the log. -/
def Accounted (w w' : S × List (Sight ε)) : Prop :=
  ∃ seen, w'.2 = w.2 ++ seen ∧ log w'.1 = log w.1 ++ seen.flatMap Sight.events

variable {log} in
theorem Accounted.refl (w : S × List (Sight ε)) : Accounted log w w :=
  ⟨[], (List.append_nil _).symm, (List.append_nil _).symm⟩

variable {log} in
theorem Accounted.trans (w w₁ w₂ : S × List (Sight ε)) (h : Accounted log w w₁)
    (h₁ : Accounted log w₁ w₂) : Accounted log w w₂ := by
  obtain ⟨seen, hw, hlog⟩ := h
  obtain ⟨seen₁, hw₁, hlog₁⟩ := h₁
  refine ⟨seen ++ seen₁, ?_, ?_⟩
  · rw [hw₁, hw, List.append_assoc]
  · rw [hlog₁, hlog, List.flatMap_append, List.append_assoc]

variable {log} in
theorem watchAct_accounted {sight : α → List ε → Sight ε} (hs : ∀ a es, (sight a es).events = es)
    {act : StateM S α} (h : Appends log act) : Keeps (Accounted log) (watchAct log sight act) := by
  intro w
  obtain ⟨added, hadded⟩ := h w.1
  refine ⟨_, rfl, ?_⟩
  simp [watchAct, hs, ← hadded]

namespace Layer

/-- A layer under watch. -/
def watch (i : Nat) (l : Layer S Q R) : Layer (S × List (Sight ε)) Q R :=
  ⟨fun q w =>
    match watchAct log (fun e => .entered i e.isPassed) (l.enter q) w with
    | (.answered result, w) => (.answered result, w)
    | (.passed q leave, w) =>
      (.passed q fun result => watchAct log (fun _ => .left i) (leave result), w)⟩

/-- A chain under watch, with its stages numbered from `first`. -/
def watchChain (first : Nat) (ls : List (Layer S Q R)) (h : Q → StateM S R) :
    Q → StateM (S × List (Sight ε)) R :=
  chain ((ls.zipIdx first).map fun x => x.1.watch log x.2)
    fun q => watchAct log (fun _ => .handled) (h q)

theorem watchChain_cons (first : Nat) (l : Layer S Q R) (ls : List (Layer S Q R))
    (h : Q → StateM S R) :
    watchChain log first (l :: ls) h
      = (l.watch log first).around (watchChain log (first + 1) ls h) := rfl

/-- **Watching changes nothing, and an onion is seen.** The induction is on the stages: each one is seen
on its way in, and on its way out after everything further in. -/
theorem watchChain_eq (ls : List (Layer S Q R)) (h : Q → StateM S R) (first : Nat) (q : Q) (s : S)
    (seen : List (Sight ε)) :
    ∃ ins core outs, ins.length = outs.length ∧ ins.length ≤ ls.length
      ∧ watchChain log first ls h q (s, seen)
        = ((chain ls h q s).1, (chain ls h q s).2,
            seen ++ Sight.onion first ls.length ins core outs) := by
  induction ls generalizing first q s seen with
  | nil => exact ⟨[], (log (h q s).2).drop (log s).length, [], rfl, Nat.le_refl 0, rfl⟩
  | cons l ls ih =>
    rw [watchChain_cons, chain_cons, around, around]
    dsimp only [watch, watchAct]
    cases he : l.enter q s with
    | mk entered s₁ =>
      cases entered with
      | answered result =>
        exact ⟨[], (log s₁).drop (log s).length, [], rfl, Nat.zero_le _, rfl⟩
      | passed q₁ leave =>
        obtain ⟨ins, core, outs, hlen, hle, heq⟩ := ih (first + 1) q₁ s₁
          (seen ++ [.entered first true ((log s₁).drop (log s).length)])
        cases hc : chain ls h q₁ s₁ with
        | mk result t =>
          rw [hc] at heq
          refine ⟨(log s₁).drop (log s).length :: ins, core,
            (log (leave result t).2).drop (log t).length :: outs, ?_, ?_, ?_⟩
          · simp [hlen]
          · simpa using hle
          · dsimp only [Entered.isPassed]
            rw [heq, hc, List.length_cons, Sight.onion_cons]
            simp [watchAct]

/-! ### What is seen is what is written -/

theorem watch_enter_snd (i : Nat) (l : Layer S Q R) (q : Q) (w : S × List (Sight ε)) :
    ((l.watch log i).enter q w).2
      = (watchAct log (fun e => .entered i e.isPassed) (l.enter q) w).2 := by
  dsimp only [watch]
  cases watchAct log (fun e => .entered i e.isPassed) (l.enter q) w with
  | mk entered w' => cases entered <;> rfl

/-- A layer under watch lets results out as the layer does. -/
theorem exists_leave_of_watch {i : Nat} {l : Layer S Q R} {q q' : Q} {w w' : S × List (Sight ε)}
    {leave : R → StateM (S × List (Sight ε)) R}
    (h : (l.watch log i).enter q w = (.passed q' leave, w')) :
    ∃ leave₀ s', l.enter q w.1 = (.passed q' leave₀, s')
      ∧ leave = fun result => watchAct log (fun _ => .left i) (leave₀ result) := by
  dsimp only [watch, watchAct] at h
  cases he : l.enter q w.1 with
  | mk entered s' =>
    rw [he] at h
    cases entered with
    | answered result => cases h
    | passed q₁ leave₀ =>
      obtain ⟨hpassed, -⟩ := Prod.mk.inj h
      injection hpassed with hq hleave
      exact ⟨leave₀, s', by rw [hq], hleave.symm⟩

variable {log}

theorem watch_steadfast {l : Layer S Q R} (h : l.Steadfast fun s s' => log s <+: log s') (i : Nat) :
    (l.watch log i).Steadfast (Accounted log) := by
  constructor
  · intro q w
    rw [watch_enter_snd]
    exact watchAct_accounted (fun _ _ => rfl) (h.enter q) w
  · intro q w q' leave w' he result
    obtain ⟨leave₀, s', he₀, rfl⟩ := exists_leave_of_watch log he
    exact watchAct_accounted (fun _ _ => rfl) (h.leave he₀ result)

/-- **What is seen is what is written**, if neither the layers nor the handler take anything back. -/
theorem watchChain_accounted {ls : List (Layer S Q R)}
    (hls : ∀ l ∈ ls, l.Steadfast fun s s' => log s <+: log s') {h : Q → StateM S R}
    (hh : ∀ q, Appends log (h q)) (first : Nat) (q : Q) :
    Keeps (Accounted log) (watchChain log first ls h q) := by
  refine chain_keeps Accounted.refl Accounted.trans ?_ ?_ q
  · intro l hl
    obtain ⟨⟨l₀, i⟩, hmem, rfl⟩ := List.mem_map.mp hl
    exact watch_steadfast (hls l₀ (List.fst_mem_of_mem_zipIdx hmem)) i
  · intro q
    exact watchAct_accounted (fun _ _ => rfl) (hh q)

end Layer

/-! ### Layers that behave alike -/

/-- What is related across two chains that differ in nothing but their results. -/
def Across.besides (f : R → R' → Prop) : Across S S Q Q R R' := ⟨Eq, Eq, f, True⟩

/-- Two handlers do the same to the state, and their results are related. -/
def Agreeing (f : R → R' → Prop) (h : Q → StateM S R) (h' : Q → StateM S R') : Prop :=
  ∀ q s, (h q s).2 = (h' q s).2 ∧ f (h q s).1 (h' q s).1

variable {log} {f : R → R' → Prop}

theorem watchAct_agreeing {α' : Type} {act : StateM S α} {act' : StateM S α'}
    {sight : α → List ε → Sight ε} {sight' : α' → List ε → Sight ε} {s : S}
    (h : (act s).2 = (act' s).2) (hs : sight (act s).1 = sight' (act' s).1)
    (seen : List (Sight ε)) :
    (watchAct log sight act (s, seen)).2 = (watchAct log sight' act' (s, seen)).2 := by
  simp only [watchAct, h, hs]

theorem Agreeing.corresponds {h : Q → StateM S R} {h' : Q → StateM S R'} (hh : Agreeing f h h') :
    Corresponds (Across.besides f) h h' := by
  rintro q _ s _ rfl rfl
  exact ⟨(hh q s).1, fun _ => (hh q s).2⟩

theorem Agreeing.watched {h : Q → StateM S R} {h' : Q → StateM S R'} (hh : Agreeing f h h') :
    Agreeing f (fun q => watchAct log (fun _ => .handled) (h q))
      (fun q => watchAct log (fun _ => .handled) (h' q)) := by
  intro q w
  obtain ⟨hstate, hresult⟩ := hh q w.1
  exact ⟨watchAct_agreeing hstate rfl w.2, hresult⟩

namespace Layer

/-- Two layers behave alike: they do the same to the state and pass the same requests on, their answers
are related, and they let related results out as related results. -/
def Twin (f : R → R' → Prop) (l : Layer S Q R) (l' : Layer S Q R') : Prop :=
  l.Corresponds (Across.besides f) Eq l'

theorem Twin.watched {l : Layer S Q R} {l' : Layer S Q R'} (h : Twin f l l') (i : Nat) :
    Twin f (l.watch log i) (l'.watch log i) := by
  rintro q _ w _ rfl rfl
  obtain ⟨hentered, hstate⟩ := h (rfl : q = q) (rfl : w.1 = w.1)
  dsimp only [watch, watchAct]
  cases he : l.enter q w.1 with
  | mk entered s =>
    cases he' : l'.enter q w.1 with
    | mk entered' s' =>
      rw [he, he'] at hentered hstate
      obtain rfl : s = s' := hstate
      cases hentered with
      | answered hx => exact ⟨.answered hx, rfl⟩
      | passed hq hl =>
        refine ⟨.passed hq ⟨?_, ?_⟩, rfl⟩
        · rintro x x' w _ hx rfl
          exact watchAct_agreeing (hl.state hx rfl) rfl w.2
        · rintro x x' w _ hx rfl
          exact hl.result hx rfl

/-- **Chains of layers that behave alike** are seen to do the same. -/
theorem watchChain_twins {ls : List (Layer S Q R)} {ls' : List (Layer S Q R')}
    (hls : List.Forall₂ (Twin f) ls ls') {h : Q → StateM S R} {h' : Q → StateM S R'}
    (hh : Agreeing f h h') (first : Nat) :
    Turnstile.Corresponds (Across.besides f) (watchChain log first ls h)
      (watchChain log first ls' h') := by
  induction hls generalizing first with
  | nil => exact hh.watched.corresponds
  | cons hl _ ih => exact around_corresponds (hl.watched first) (ih (first + 1))

end Layer

end

/-! ## Lanes -/

/-- A chain of layers around a handler is the right fold of the layers over it. -/
theorem Layer.chain_eq_foldr {S Q R : Type} (ls : List (Layer S Q R)) (h : Q → StateM S R) :
    chain ls h = ls.foldr around h := by
  induction ls with
  | nil => rfl
  | cons l ls ih => rw [chain_cons, ih, List.foldr_cons]

namespace Gate

variable {σ ν ρ ρ' : Type}

/-- A lane around a handler, under watch of what is written in the journal. -/
def watch (lane : List (Gate σ ν ρ)) (m : Method)
    (handler : Request Payload → StateM (Pipeline.State σ ν) (Outcome ρ)) :
    Request Payload → StateM (Pipeline.State σ ν × List (Sight (JournalEntry ν))) (Outcome ρ) :=
  Layer.watchChain Pipeline.State.journal 0 (lane.map (layer m)) handler

/-- Nothing is taken back from the journal. -/
theorem journal_kept :
    Kept fun st st' : Pipeline.State σ ν => st.journal <+: st'.journal where
  refl _ := List.prefix_rfl
  trans _ _ _ := List.IsPrefix.trans
  report _ _ := List.prefix_append _ _
  perform _ _ := List.prefix_append _ _
  mint _ _ := List.prefix_rfl
  draw _ _ := List.prefix_rfl

theorem layer_journal (gate : Gate σ ν ρ) (m : Method) :
    (gate.layer m).Steadfast fun st st' => st.journal <+: st'.journal :=
  layer_keeps journal_kept (fun _ _ _ => List.prefix_rfl) m

section

variable (lane : List (Gate σ ν ρ)) (m : Method)
  (handler : Request Payload → StateM (Pipeline.State σ ν) (Outcome ρ)) (r : Request Payload)
  (st : Pipeline.State σ ν)

/-- Watching changes nothing, and an onion is seen. -/
theorem watch_eq :
    ∃ ins core outs, ins.length = outs.length ∧ ins.length ≤ lane.length
      ∧ watch lane m handler r (st, [])
        = ((run lane m handler r st).1, (run lane m handler r st).2,
            Sight.onion 0 lane.length ins core outs) := by
  have h := Layer.watchChain_eq Pipeline.State.journal (lane.map (layer m)) handler 0 r st []
  simp only [List.length_map, List.nil_append] at h
  exact h

variable {handler} in
/-- What is seen is what is written. -/
theorem watch_journal (hh : ∀ r, Appends Pipeline.State.journal (handler r)) :
    (watch lane m handler r (st, [])).2.1.journal
      = st.journal ++ (watch lane m handler r (st, [])).2.2.flatMap Sight.events := by
  obtain ⟨seen, hseen, hjournal⟩ := Layer.watchChain_accounted
    (List.forall_mem_map.mpr fun gate _ => layer_journal gate m) hh 0 r (st, [])
  rw [watch, hjournal, hseen, List.nil_append]

end

/-- Lanes whose stages behave alike are seen to do the same. -/
theorem watch_twins {lane : List (Gate σ ν ρ)} {lane' : List (Gate σ ν ρ')} {m m' : Method}
    {f : ρ → ρ' → Prop}
    (hlanes : List.Forall₂ (fun gate gate' => (gate.layer m).Twin (Outcome.Alike f) (gate'.layer m'))
      lane lane')
    {handler : Request Payload → StateM (Pipeline.State σ ν) (Outcome ρ)}
    {handler' : Request Payload → StateM (Pipeline.State σ ν) (Outcome ρ')}
    (hh : Agreeing (Outcome.Alike f) handler handler') (r : Request Payload)
    (st : Pipeline.State σ ν) :
    (watch lane m handler r (st, [])).2 = (watch lane' m' handler' r (st, [])).2
      ∧ Outcome.Alike f (watch lane m handler r (st, [])).1
        (watch lane' m' handler' r (st, [])).1 := by
  have hlayers : List.Forall₂ (Layer.Twin (Outcome.Alike f)) (lane.map (layer m))
      (lane'.map (layer m')) := by
    rw [List.forall₂_map_left_iff, List.forall₂_map_right_iff]
    exact hlanes
  have htwins : Corresponds (Across.besides (Outcome.Alike f)) (watch lane m handler)
      (watch lane' m' handler') := Layer.watchChain_twins hlayers hh 0
  obtain ⟨hstate, hresult⟩ := htwins (rfl : r = r) (rfl : (st, []) = (st, []))
  exact ⟨hstate, hresult trivial⟩

end Gate

section

variable {σ ν ρ : Type}

/-- **Lanes nest.** Calling a lane around a handler, the unary one with its replies or the streaming one,
* is calling the right fold of its stages over the handler, and a lane of two parts is the first part
  around the second part around the handler;
* is seen to go through the first stages of the lane in their order, as long as they pass the request on,
  to the one that does not or to the handler, and back through those that did in the opposite order. No
  stage further in acts, and the handler acts once if all stages passed the request on, and else not at
  all. Watching changes nothing, and what is seen to be written is what is written in the journal;
* is seen to be the same on another lane, if stages and handlers behave alike on the two. -/
theorem lanes_nest (lane : List (Gate σ ν ρ)) (m : Method)
    (handler : Request Payload → StateM (Pipeline.State σ ν) (Outcome ρ)) :
    Gate.run lane m handler = lane.foldr (fun gate inner => (gate.layer m).around inner) handler
    ∧ (∀ inner, Gate.run (lane ++ inner) m handler = Gate.run lane m (Gate.run inner m handler))
    ∧ (∀ r st, ∃ ins core outs, ins.length = outs.length ∧ ins.length ≤ lane.length
      ∧ let seen := Sight.onion 0 lane.length ins core outs
        Gate.watch lane m handler r (st, [])
            = ((Gate.run lane m handler r st).1, (Gate.run lane m handler r st).2, seen)
          ∧ (∀ x ∈ seen, ∀ i, x.stage? = some i → i ≤ ins.length)
          ∧ seen.countP Sight.isHandled = (if ins.length = lane.length then 1 else 0)
          ∧ ((∀ r, Appends Pipeline.State.journal (handler r)) →
            (Gate.run lane m handler r st).2.journal = st.journal ++ seen.flatMap Sight.events))
    ∧ ∀ (ρ' : Type) (f : ρ → ρ' → Prop) (lane' : List (Gate σ ν ρ')) (m' : Method)
        (handler' : Request Payload → StateM (Pipeline.State σ ν) (Outcome ρ')),
        List.Forall₂ (fun gate gate' => (gate.layer m).Twin (Outcome.Alike f) (gate'.layer m'))
          lane lane' →
        Agreeing (Outcome.Alike f) handler handler' →
        ∀ r st, (Gate.watch lane m handler r (st, [])).2 = (Gate.watch lane' m' handler' r (st, [])).2
          ∧ Outcome.Alike f (Gate.run lane m handler r st).1 (Gate.run lane' m' handler' r st).1 := by
  refine ⟨?_, ?_, ?_, ?_⟩
  · rw [Gate.run, Layer.chain_eq_foldr, List.foldr_map]
  · intro inner
    rw [Gate.run, List.map_append, Layer.chain_append]
    rfl
  · intro r st
    obtain ⟨ins, core, outs, hlen, hle, heq⟩ := Gate.watch_eq lane m handler r st
    refine ⟨ins, core, outs, hlen, hle, heq, ?_, ?_, ?_⟩
    · intro x hx i hi
      simpa using Sight.stage_le_of_mem_onion hlen hx hi
    · rw [Sight.countP_onion]
      split <;> split <;> first | rfl | omega
    · intro hh
      have hjournal := Gate.watch_journal lane m r st hh
      rw [heq] at hjournal
      exact hjournal
  · intro ρ' f lane' m' handler' hlanes hh r st
    obtain ⟨hstate, hresult⟩ := Gate.watch_twins hlanes hh r st
    refine ⟨hstate, ?_⟩
    obtain ⟨ins, core, outs, -, -, heq⟩ := Gate.watch_eq lane m handler r st
    obtain ⟨ins', core', outs', -, -, heq'⟩ := Gate.watch_eq lane' m' handler' r st
    rw [heq, heq'] at hresult
    exact hresult

end

/-! ## Stages that make notes -/

section

variable {σ ν ρ ρ' : Type}

/-- A stage that makes a note of each request on its way in, and of each result on its way out. -/
def UserStage.noting (before after : ν) : UserStage σ ν ρ :=
  ⟨fun _ r own => (.passed r fun
      | .returned x, own => (.returned x, { own with notes := own.notes ++ [after] })
      | .panicked payload, own => (.panicked payload, own),
    { own with notes := own.notes ++ [before] })⟩

/-- A stage that makes a note of each request and refuses it. -/
def UserStage.refusing (note : ν) (s : Status) : UserStage σ ν ρ :=
  ⟨fun _ _ own => (.answered (.failed s), { own with notes := own.notes ++ [note] })⟩

theorem UserStage.noting_twin (before after : ν) (m m' : Method) (f : ρ → ρ' → Prop) :
    ((Gate.user (noting before after) : Gate σ ν ρ).layer m).Twin (Outcome.Alike f)
      ((Gate.user (noting before after) : Gate σ ν ρ').layer m') := by
  rintro r _ st _ rfl rfl
  refine ⟨.passed rfl ⟨?_, ?_⟩, rfl⟩
  · rintro x x' s _ hx rfl
    cases hx trivial <;> rfl
  · rintro x x' s _ hx rfl
    cases hx with
    | ok h => exact .ok h
    | failed s => exact .failed s
    | panicked payload => exact .panicked payload

theorem UserStage.refusing_twin (note : ν) (s : Status) (m m' : Method) (f : ρ → ρ' → Prop) :
    ((Gate.user (refusing note s) : Gate σ ν ρ).layer m).Twin (Outcome.Alike f)
      ((Gate.user (refusing note s) : Gate σ ν ρ').layer m') := by
  rintro r _ st _ rfl rfl
  exact ⟨.answered (.failed s), rfl⟩

end

/-- Four stages, the third of which refuses the request, on both lanes: the first two are entered and
left, the fourth and the handler do nothing. -/
theorem lanes_nest_up_to_refusal :
    let lane {ρ : Type} : List (Gate Unit String ρ) :=
      [.user (.noting "A:in" "A:out"), .user (.noting "B:in" "B:out"),
        .user (.refusing "C" .unauthenticated), .user (.noting "D:in" "D:out")]
    let handler : Request Payload → StateM (Pipeline.State Unit String) (Outcome (Reply Payload)) :=
      fun r => Pipeline.State.perform fun own =>
        (.ok { message := r.message }, { own with notes := own.notes ++ ["handler"] })
    let handler' : Request Payload → StateM (Pipeline.State Unit String) (Outcome Unit) :=
      fun _ => Pipeline.State.perform fun own =>
        (.ok (), { own with notes := own.notes ++ ["handler"] })
    let r : Request Payload := { message := .text "hello" }
    let st : Pipeline.State Unit String := { user := () }
    let seen := (Gate.watch lane (.unary "/S/A") handler r (st, [])).2.2
    seen = [.entered 0 true [.note "A:in"], .entered 1 true [.note "B:in"],
        .entered 2 false [.note "C"], .left 1 [.note "B:out"], .left 0 [.note "A:out"]]
      ∧ (Gate.run lane (.unary "/S/A") handler r st).2.journal = seen.flatMap Sight.events
      ∧ (Gate.watch lane (.stream "/S/B") handler' r (st, [])).2.2 = seen := by
  intro lane handler handler' r st seen
  obtain ⟨-, -, hseen, htwins⟩ := lanes_nest lane (.unary "/S/A") handler
  have hstages : List.Forall₂ (fun gate gate' => (gate.layer (.unary "/S/A")).Twin
      (Outcome.Alike fun (_ : Reply Payload) (_ : Unit) => True) (gate'.layer (.stream "/S/B")))
      lane lane :=
    .cons (UserStage.noting_twin ..) (.cons (UserStage.noting_twin ..)
      (.cons (UserStage.refusing_twin ..) (.cons (UserStage.noting_twin ..) .nil)))
  have hhandlers : Agreeing (Outcome.Alike fun (_ : Reply Payload) (_ : Unit) => True)
      handler handler' := fun _ _ => ⟨rfl, .ok trivial⟩
  refine ⟨rfl, ?_, ?_⟩
  · obtain ⟨ins, core, outs, -, -, heq, -, -, hjournal⟩ := hseen r st
    rw [hjournal fun _ _ => List.prefix_append _ _]
    exact congrArg (fun w => List.flatMap Sight.events w.2.2) heq.symm
  · exact congrArg Prod.snd (htwins Unit _ lane _ handler' hstages hhandlers r st).1.symm

end Turnstile
