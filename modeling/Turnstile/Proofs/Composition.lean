import Mathlib.Data.List.Induction
import Turnstile.Pipeline
import Turnstile.Proofs.Registry

/-!
# What options come to

A pipeline is made from options in any order and number. All that matters of them is here called the
choices: which flags are among them, the last value of each kind, and the spans and user's stages in
their order. The gates are registered after the user's stages and come to stand outside them.

* `Choices.of`: the choices that options make, read off their list.
* `Choices.gates`: the gates of a lane, outermost first.
* `Choices.pipeline`: the pipeline that the choices make with their limits.
* `build_of_choices`: building gives that pipeline, or the fault in the limits.
-/

namespace Turnstile

/-! ## Choices -/

namespace PipelineOption

variable {σ ν : Type}

/-- Whether an option asks for recovery. -/
def isRecovery : PipelineOption σ ν → Bool
  | .recovery => true
  | _ => false

/-- Whether an option asks for request identifiers by name. -/
def isRequestId : PipelineOption σ ν → Bool
  | .requestId => true
  | _ => false

/-- The admission that an option gives. -/
def admission? : PipelineOption σ ν → Option Admission
  | .admission a => some a
  | _ => none

/-- The global rate limit that an option gives. -/
def rateLimit? : PipelineOption σ ν → Option (Float × Nat)
  | .rateLimit rps burst => some (rps, burst)
  | _ => none

/-- The resolver that an option gives. -/
def resolver? : PipelineOption σ ν → Option Resolver
  | .resolver r => some r
  | _ => none

/-- The authenticator that an option gives. -/
def authenticator? : PipelineOption σ ν → Option (Authenticator σ ν)
  | .authentication a => some a
  | _ => none

/-- The collector that an option gives. -/
def metrics? : PipelineOption σ ν → Option Collector
  | .metrics c => some c
  | _ => none

/-- The cache that an option gives. -/
def cache? : PipelineOption σ ν → Option CacheChoice
  | .cache c => some c
  | _ => none

/-- The stage that an option adds: a span or one of the user's. -/
def stage? : PipelineOption σ ν → Option (PipelineStage σ ν)
  | .span => some (.both .span .span)
  | .user s => some s.toStage
  | _ => none

/-- The last value of a kind among options. -/
def last? {α : Type} (kind : PipelineOption σ ν → Option α) (os : List (PipelineOption σ ν)) :
    Option α :=
  (os.filterMap kind).getLast?

@[simp] theorem last?_nil {α : Type} (kind : PipelineOption σ ν → Option α) :
    last? kind [] = none := rfl

@[simp] theorem last?_concat {α : Type} (kind : PipelineOption σ ν → Option α)
    (os : List (PipelineOption σ ν)) (o : PipelineOption σ ν) :
    last? kind (os ++ [o]) = (kind o).or (last? kind os) := by
  unfold last?
  cases h : kind o <;> simp [h]

theorem last?_append {α : Type} (kind : PipelineOption σ ν → Option α)
    (os os' : List (PipelineOption σ ν)) :
    last? kind (os ++ os') = (last? kind os').or (last? kind os) := by
  unfold last?
  rw [List.filterMap_append, List.getLast?_append]

theorem last?_flag {α : Type} (kind : PipelineOption σ ν → Option α) (b : Bool)
    (o : PipelineOption σ ν) : last? kind (if b then [o] else []) = if b then kind o else none := by
  cases b with
  | false => rfl
  | true => exact (last?_concat kind [] o).trans Option.or_none

theorem last?_option {α β : Type} (kind : PipelineOption σ ν → Option α) (x : Option β)
    (f : β → PipelineOption σ ν) : last? kind (x.toList.map f) = x.bind fun b => kind (f b) := by
  cases x with
  | none => rfl
  | some b => exact (last?_concat kind [] (f b)).trans Option.or_none

end PipelineOption

open PipelineOption

/-- What options come to: the flags among them, the last value of each kind, and the stages they add,
in their order. -/
structure Choices (σ ν : Type) where
  recovery : Bool
  requestId : Bool
  admission : Option Admission
  rateLimit : Option (Float × Nat)
  resolver : Option Resolver
  authenticator : Option (Authenticator σ ν)
  metrics : Option Collector
  cache : Option CacheChoice
  stages : List (PipelineStage σ ν)

namespace Choices

variable {σ ν ρ α : Type}

/-- The choices that options make. -/
def of (os : List (PipelineOption σ ν)) : Choices σ ν where
  recovery := os.any isRecovery
  requestId := os.any isRequestId
  admission := last? admission? os
  rateLimit := last? rateLimit? os
  resolver := last? resolver? os
  authenticator := last? authenticator? os
  metrics := last? metrics? os
  cache := last? cache? os
  stages := os.filterMap stage?

/-- The limits: the last rate limit that was given, over the groups of the last resolver, wherever among
the options that was. -/
def limits (c : Choices σ ν) : Except (Failure LimitError) (Option RateGate) :=
  match c.rateLimit with
  | none => .ok none
  | some (rps, burst) =>
    match Limiter.ofRate rps burst with
    | .error e => .error e
    | .ok global =>
      match RateGate.of global c.resolver with
      | .error e => .error e
      | .ok g => .ok (some g)

/-- The gates of a lane, outermost first. -/
def gates (c : Choices σ ν) (g : Option RateGate) : List (Gate σ ν ρ) :=
  (if c.recovery then [.recovery c.metrics] else [])
    ++ (c.admission.map .admission).toList
    ++ (g.map .rateLimit).toList
    ++ (c.authenticator.map .authentication).toList
    ++ (if c.recovery || c.requestId then [.tagging] else [])

/-- The stages of the unary lane inside the gates. -/
def unaryStages (c : Choices σ ν) : List (Gate σ ν (Reply Payload)) :=
  c.stages.filterMap Stage.onUnary?

/-- The stages of the streaming lane inside the gates. -/
def streamStages (c : Choices σ ν) : List (Gate σ ν Unit) := c.stages.filterMap Stage.onStream?

/-- The pipeline that the choices make with their limits. -/
def pipeline (c : Choices σ ν) (g : Option RateGate) : Pipeline σ ν where
  unary := c.gates g ++ c.unaryStages
  stream := c.gates g ++ c.streamStages
  registered := (c.gates g : List (Gate σ ν Unit)).length + c.stages.length
  resolver := c.resolver
  admission := c.admission
  rateGate := g
  metrics := c.metrics
  cache := c.cache

/-! ## The builder that options come to -/

/-- The builder that the choices stand for. -/
def builder (c : Choices σ ν) : Builder σ ν where
  registry := ⟨c.stages.map fun s => (100, s)⟩
  recovery := c.recovery
  requestId := c.recovery || c.requestId
  admission := c.admission
  rateLimit := c.rateLimit
  resolver := c.resolver
  authenticator := c.authenticator
  metrics := c.metrics
  cache := c.cache

/-- One more option, on the side of the choices. -/
theorem builder_of_concat (os : List (PipelineOption σ ν)) (o : PipelineOption σ ν) :
    (of (os ++ [o])).builder = (of os).builder.apply o := by
  cases o <;>
    simp [of, builder, Builder.apply, Registry.add, isRecovery, isRequestId,
      admission?, rateLimit?, resolver?, authenticator?, metrics?, cache?, stage?]

/-- **Taking options** leaves the builder that their choices stand for. -/
theorem applyAll_eq (os : List (PipelineOption σ ν)) :
    ({} : Builder σ ν).applyAll os = (of os).builder := by
  induction os using List.reverseRecOn with
  | nil => rfl
  | append_singleton os o ih =>
    rw [builder_of_concat, ← ih]
    simp [Builder.applyAll]

/-! ## The order of the gates -/

/-- A gate of both lanes with its priority, as the builder registers it. -/
def gateEntry (k : Int) (u : Gate σ ν (Reply Payload)) (t : Gate σ ν Unit) :
    Int × PipelineStage σ ν :=
  (k, .both u t)

/-- The gates with their priorities. -/
def gateEntries (c : Choices σ ν) (g : Option RateGate) : List (Int × PipelineStage σ ν) :=
  (if c.recovery then [gateEntry 10 (.recovery c.metrics) (.recovery c.metrics)] else [])
    ++ (c.admission.map fun a => gateEntry 20 (.admission a) (.admission a)).toList
    ++ (g.map fun g => gateEntry 25 (.rateLimit g) (.rateLimit g)).toList
    ++ (c.authenticator.map fun a => gateEntry 28 (.authentication a) (.authentication a)).toList
    ++ (if c.recovery || c.requestId then [gateEntry 30 .tagging .tagging] else [])

/-- The entries of the full registry: the user's stages, and after them the gates. -/
theorem fullRegistry_entries (c : Choices σ ν) (g : Option RateGate) :
    (c.builder.fullRegistry g).entries
      = (c.stages.map fun s => (100, s)) ++ c.gateEntries g := by
  unfold Builder.fullRegistry gateEntries builder
  cases c.recovery <;> cases c.admission <;> cases g <;> cases c.authenticator <;>
    cases c.requestId <;> simp [Builder.withGate, Registry.add, gateEntry]

theorem sublist_of_flag (b : Bool) (e : Int × α) :
    ((if b then [e] else []).map Prod.fst).Sublist [e.1] := by
  cases b <;> simp

theorem sublist_of_option {β : Type} (o : Option β) (k : Int) (f : β → α) :
    ((o.map fun b => (k, f b)).toList.map Prod.fst).Sublist [k] := by
  cases o <;> simp

/-- The priorities of the gates are among these and stand in this order. -/
theorem gateEntries_priorities (c : Choices σ ν) (g : Option RateGate) :
    ((c.gateEntries g).map Prod.fst).Sublist [10, 20, 25, 28, 30] := by
  unfold gateEntries gateEntry
  simp only [List.map_append]
  have hrec := sublist_of_flag c.recovery
    ((10, .both (.recovery c.metrics) (.recovery c.metrics)) : Int × PipelineStage σ ν)
  have htag := sublist_of_flag (c.recovery || c.requestId)
    ((30, .both .tagging .tagging) : Int × PipelineStage σ ν)
  exact (((hrec.append (sublist_of_option c.admission 20 _)).append
    (sublist_of_option g 25 _)).append (sublist_of_option c.authenticator 28 _)).append htag

theorem gateEntries_inOrder (c : Choices σ ν) (g : Option RateGate) :
    Registry.InOrder (c.gateEntries g) := by
  have h : List.Pairwise (· ≤ ·) ((c.gateEntries g).map Prod.fst) :=
    List.Pairwise.sublist (c.gateEntries_priorities g) (by decide)
  exact List.pairwise_map.mp h

/-- Every gate stands outside the user's stages. -/
theorem gateEntries_lt (c : Choices σ ν) (g : Option RateGate) :
    ∀ e ∈ c.gateEntries g, e.1 < 100 := by
  intro e he
  have hmem : e.1 ∈ [(10 : Int), 20, 25, 28, 30] :=
    (c.gateEntries_priorities g).subset (List.mem_map_of_mem he)
  simp only [List.mem_cons, List.not_mem_nil, or_false] at hmem
  omega

/-- The registry in order: the gates, and inside them the user's stages as they were given. -/
theorem fullRegistry_sorted (c : Choices σ ν) (g : Option RateGate) :
    (c.builder.fullRegistry g).sorted = c.gateEntries g ++ c.stages.map fun s => (100, s) := by
  refine Registry.sorted_append (c.fullRegistry_entries g) (c.gateEntries_inOrder g) ?_ ?_
  · refine List.pairwise_of_forall_mem_list ?_
    intro a ha b hb
    obtain ⟨s, -, rfl⟩ := List.mem_map.mp ha
    obtain ⟨t, -, rfl⟩ := List.mem_map.mp hb
    exact Int.le_refl _
  · intro a ha b hb
    obtain ⟨s, -, rfl⟩ := List.mem_map.mp hb
    exact c.gateEntries_lt g a ha

/-- On either lane the entries of the gates are the gates. -/
theorem gateEntries_lanes (c : Choices σ ν) (g : Option RateGate) :
    (c.gateEntries g).filterMap (fun e => e.2.onUnary?) = c.gates g
      ∧ (c.gateEntries g).filterMap (fun e => e.2.onStream?) = c.gates g := by
  unfold gateEntries gates
  cases c.recovery <;> cases c.admission <;> cases g <;> cases c.authenticator <;>
    cases c.requestId <;> simp [gateEntry, Stage.onUnary?, Stage.onStream?]

theorem fullRegistry_unaryLane (c : Choices σ ν) (g : Option RateGate) :
    (c.builder.fullRegistry g).unaryLane = c.gates g ++ c.unaryStages := by
  rw [Registry.unaryLane, fullRegistry_sorted, List.filterMap_append, (c.gateEntries_lanes g).1,
    List.filterMap_map]
  rfl

theorem fullRegistry_streamLane (c : Choices σ ν) (g : Option RateGate) :
    (c.builder.fullRegistry g).streamLane = c.gates g ++ c.streamStages := by
  rw [Registry.streamLane, fullRegistry_sorted, List.filterMap_append, (c.gateEntries_lanes g).2,
    List.filterMap_map]
  rfl

theorem fullRegistry_length (c : Choices σ ν) (g : Option RateGate) :
    (c.builder.fullRegistry g).entries.length
      = (c.gates g : List (Gate σ ν Unit)).length + c.stages.length := by
  rw [fullRegistry_entries]
  have h : (c.gateEntries g).length = (c.gates g : List (Gate σ ν Unit)).length := by
    unfold gateEntries gates
    cases c.recovery <;> cases c.admission <;> cases g <;> cases c.authenticator <;>
      cases c.requestId <;> rfl
  simp [h, Nat.add_comm]

/-! ## Building -/

theorem rateGate?_builder (c : Choices σ ν) : c.builder.rateGate? = c.limits := by
  unfold Builder.rateGate? limits builder
  cases c.rateLimit with
  | none => rfl
  | some limit =>
    obtain ⟨rps, burst⟩ := limit
    dsimp only
    cases Limiter.ofRate rps burst with
    | error e => rfl
    | ok global =>
      dsimp only
      cases RateGate.of global c.resolver <;> rfl

/-- There is a rate gate exactly if a global rate limit was given. -/
theorem isSome_of_limits {c : Choices σ ν} {g : Option RateGate} (h : c.limits = .ok g) :
    g.isSome = c.rateLimit.isSome := by
  unfold limits at h
  cases hr : c.rateLimit with
  | none =>
    rw [hr] at h
    obtain rfl := Except.ok.inj h
    rfl
  | some limit =>
    obtain ⟨rps, burst⟩ := limit
    rw [hr] at h
    dsimp only at h
    split at h
    · cases h
    · split at h
      · cases h
      · obtain rfl := Except.ok.inj h
        rfl

/-- Building the builder of some choices. -/
theorem build_builder (c : Choices σ ν) :
    c.builder.build = match c.limits with
      | .error e => .error (e.map .rateLimit)
      | .ok g => .ok (c.pipeline g) := by
  unfold Builder.build
  rw [rateGate?_builder]
  cases c.limits with
  | error e => rfl
  | ok g =>
    dsimp only
    rw [fullRegistry_unaryLane, fullRegistry_streamLane, fullRegistry_length]
    rfl

/-- A pipeline that was built is the pipeline of the choices that its options make. -/
theorem of_build {os : List (PipelineOption σ ν)} {p : Pipeline σ ν}
    (hp : (({} : Builder σ ν).applyAll os).build = .ok p) :
    ∃ g, (of os).limits = .ok g ∧ (of os).pipeline g = p := by
  rw [applyAll_eq, build_builder] at hp
  split at hp
  · cases hp
  · exact ⟨_, ‹_›, Except.ok.inj hp⟩

end Choices

section

variable {σ ν : Type}

/-- **What options come to.** Building gives the pipeline of the choices with their limits, or the fault
in the limits; there is a rate gate exactly if a global rate limit was given. The pipeline has the last
collector and the last cache that were given, and it is that collector that recovery counts with on either
lane. Options that make the same choices build the same. -/
theorem build_of_choices (os : List (PipelineOption σ ν)) :
    ((({} : Builder σ ν).applyAll os).build = match (Choices.of os).limits with
      | .error e => .error (e.map .rateLimit)
      | .ok g => .ok ((Choices.of os).pipeline g))
    ∧ (∀ g, (Choices.of os).limits = .ok g → g.isSome = (last? rateLimit? os).isSome)
    ∧ (∀ p : Pipeline σ ν, (({} : Builder σ ν).applyAll os).build = .ok p →
        p.metrics = last? metrics? os ∧ p.cache = last? cache? os
        ∧ p.resolver = last? resolver? os ∧ p.admission = last? admission? os
        ∧ (os.any isRecovery → p.unary.head? = some (.recovery p.metrics)
          ∧ p.stream.head? = some (.recovery p.metrics)))
    ∧ ∀ os' : List (PipelineOption σ ν), Choices.of os' = Choices.of os →
        (({} : Builder σ ν).applyAll os').build = (({} : Builder σ ν).applyAll os).build := by
  refine ⟨?_, fun g hg => Choices.isSome_of_limits hg, ?_, ?_⟩
  · rw [Choices.applyAll_eq, Choices.build_builder]
  · intro p hp
    obtain ⟨g, -, rfl⟩ := Choices.of_build hp
    refine ⟨rfl, rfl, rfl, rfl, ?_⟩
    intro hr
    have hrecovery : (Choices.of os).recovery = true := hr
    simp [Choices.pipeline, Choices.gates, hrecovery]
  · intro os' h
    rw [Choices.applyAll_eq, Choices.applyAll_eq, h]

end

/-- A resolver given after the rate limit, gates among the user's stages, and a rate limit, a collector
and a cache that are given again: the same choices, and a pipeline comes of them, with the later
collector and the later cache. -/
theorem build_of_choices_reordered :
    let policy : Policy := { rateLimit := some (.perMinute 1) }
    let r : Resolver := ⟨[⟨"admin", [.beginning "/admin."], some policy⟩]⟩
    let stage : UserStage Unit Unit Unit := ⟨fun _ _ => return .answered (.ok ())⟩
    let os : List (PipelineOption Unit Unit) :=
      [.metrics ⟨1⟩, .rateLimit 2.5 1, .user (.streaming stage), .recovery, .cache (.inProcess 16),
        .rateLimit 2.5 3, .metrics ⟨2⟩, .span, .resolver r, .cache (.brought 1)]
    let os' : List (PipelineOption Unit Unit) :=
      [.resolver r, .rateLimit 2.5 3, .user (.streaming stage), .cache (.brought 1), .span, .recovery,
        .metrics ⟨2⟩, .recovery]
    Choices.of os' = Choices.of os
      ∧ (({} : Builder Unit Unit).applyAll os').build = (({} : Builder Unit Unit).applyAll os).build
      ∧ ∃ p, (({} : Builder Unit Unit).applyAll os).build = .ok p ∧ p.metrics = some ⟨2⟩
        ∧ p.cache = some (.brought 1) ∧ p.unary.head? = some (.recovery (some ⟨2⟩)) := by
  intro policy r stage os os'
  have hc : Choices.of os' = Choices.of os := rfl
  have hl : (Choices.of os).limits.toOption.isSome := by decide +kernel
  obtain ⟨hbuild, -, hlast, hsame⟩ := build_of_choices os
  refine ⟨hc, hsame os' hc, ?_⟩
  cases hg : (Choices.of os).limits with
  | error e => rw [hg] at hl; cases hl
  | ok g =>
    rw [hg] at hbuild
    obtain ⟨hmetrics, hcache, -, -, hrecovery⟩ := hlast _ hbuild
    exact ⟨_, hbuild, hmetrics, hcache, (hrecovery rfl).1⟩

end Turnstile
