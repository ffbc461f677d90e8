import Mathlib.Data.List.Basic
import Turnstile.Proofs.Registry

/-!
# The order of each lane

A registry is sorted once, with the stages of both lanes in it, and the lanes are read off what comes of
that. Here each lane is told on its own, from what was registered: which stages have a place in it, and
which of two places comes first. A place is known by its priority and by the number under which its stage
was registered, so that a stage that was registered twice has two places.

* `Registry.register`: the registry of a list of entries.
* `Registry.Arranged`: what it takes for a list of places to be a lane; `Arranged.unique`, that there is
  no more than one such list.
* `Registry.places`: the places of a lane, in order.
* `lanes_arranged`: both lanes of every registry, and what makes no difference to them.
-/

namespace Turnstile.Registry

variable {α U T : Type}

/-- The registry of entries that are registered one after the other. -/
def register (es : List (Int × Stage U T)) : Registry U T := es.foldl (fun r e => r.add e.1 e.2) {}

@[simp] theorem entries_register (es : List (Int × Stage U T)) : (register es).entries = es := by
  have h : ∀ r : Registry U T, (es.foldl (fun r e => r.add e.1 e.2) r).entries = r.entries ++ es := by
    induction es with
    | nil => intro r; exact (List.append_nil _).symm
    | cons e es ih =>
      intro r
      rw [List.foldl_cons, ih]
      exact List.append_assoc ..
  exact (h {}).trans (List.nil_append es)

/-! ## Places -/

/-- The place of a stage on a lane: its priority, and the number under which it was registered. -/
structure Place (α : Type) where
  priority : Int
  number : Nat
  stage : α

/-- A place is taken by the entry that was registered under its number, if that is on the lane. -/
def Place.Taken (lane : Stage U T → Option α) (es : List (Int × Stage U T)) (x : Place α) : Prop :=
  ∃ s, es[x.number]? = some (x.priority, s) ∧ lane s = some x.stage

/-- The places of a lane in order: all that are taken, each once, by priority, and those of one priority
as they were registered. -/
structure Arranged (lane : Stage U T → Option α) (es : List (Int × Stage U T))
    (xs : List (Place α)) : Prop where
  mem_iff : ∀ x, x ∈ xs ↔ x.Taken lane es
  nodup : xs.Nodup
  ordered : xs.Pairwise fun x y => x.priority ≤ y.priority
  stable : xs.Pairwise fun x y => x.priority = y.priority → x.number < y.number

variable {lane : Stage U T → Option α} {es : List (Int × Stage U T)}

/-- **No two lists are arranged.** Of two places it is settled which one comes first. -/
theorem Arranged.unique {xs ys : List (Place α)} (hx : Arranged lane es xs)
    (hy : Arranged lane es ys) : xs = ys := by
  have hperm : xs.Perm ys := (List.perm_ext_iff_of_nodup hx.nodup hy.nodup).mpr fun x =>
    (hx.mem_iff x).trans (hy.mem_iff x).symm
  refine hperm.eq_of_pairwise ?_ (hx.ordered.and hx.stable) (hy.ordered.and hy.stable)
  intro x y _ _ hxy hyx
  have hp : x.priority = y.priority := Int.le_antisymm hxy.1 hyx.1
  exact absurd (hyx.2 hp.symm) (Nat.lt_asymm (hxy.2 hp))

/-! ## Sorting with numbers -/

/-- The entries with their numbers, sorted by priority and then by number. -/
def numbered (es : List (Int × Stage U T)) : List ((Int × Stage U T) × Nat) :=
  es.zipIdx.mergeSort (List.zipIdxLE fun a b => a.1 ≤ b.1)

/-- Numbers make no difference to how entries are sorted. -/
theorem map_numbered (es : List (Int × Stage U T)) :
    (numbered es).map Prod.fst = (register es).sorted := by
  rw [sorted, entries_register]
  exact List.mergeSort_zipIdx

theorem mem_numbered {e : (Int × Stage U T) × Nat} : e ∈ numbered es ↔ es[e.2]? = some e.1 :=
  List.mem_mergeSort.trans List.mem_zipIdx_iff_getElem?

theorem numbers_nodup (es : List (Int × Stage U T)) : ((numbered es).map Prod.snd).Nodup := by
  have hnumbers : (es.zipIdx.map Prod.snd).Nodup := by
    rw [List.zipIdx_map_snd]
    exact List.nodup_range'
  exact ((List.mergeSort_perm _ _).map Prod.snd).nodup_iff.mpr hnumbers

theorem numbered_inOrder (es : List (Int × Stage U T)) :
    (numbered es).Pairwise fun a b => a.1.1 ≤ b.1.1 ∧ (a.1.1 = b.1.1 → a.2 ≤ b.2) := by
  have h : (numbered es).Pairwise fun a b =>
      List.zipIdxLE (fun a b : Int × Stage U T => a.1 ≤ b.1) a b = true :=
    List.pairwise_mergeSort
      (List.zipIdxLE_trans fun a b c hab hbc => by simp only [decide_eq_true_eq] at *; omega)
      (List.zipIdxLE_total fun a b => by simp only [Bool.or_eq_true, decide_eq_true_eq]; omega)
      es.zipIdx
  refine h.imp ?_
  intro a b hab
  simp only [List.zipIdxLE, decide_eq_true_eq] at hab
  split at hab
  · refine ⟨‹_›, fun heq => ?_⟩
    rw [if_pos (Int.le_of_eq heq.symm)] at hab
    simpa using hab
  · cases hab

/-- The places of a lane, in order. -/
def places (lane : Stage U T → Option α) (es : List (Int × Stage U T)) : List (Place α) :=
  (numbered es).filterMap fun e => (lane e.1.2).map (Place.mk e.1.1 e.2)

theorem mem_places {x : Place α} : x ∈ places lane es ↔ x.Taken lane es := by
  unfold places Place.Taken
  rw [List.mem_filterMap]
  constructor
  · rintro ⟨⟨⟨k, s⟩, n⟩, he, hx⟩
    obtain ⟨a, ha, rfl⟩ := Option.map_eq_some_iff.mp hx
    exact ⟨s, mem_numbered.mp he, ha⟩
  · rintro ⟨s, hs, ha⟩
    exact ⟨((x.priority, s), x.number), mem_numbered.mpr hs, by simp [ha]⟩

theorem arranged_places (lane : Stage U T → Option α) (es : List (Int × Stage U T)) :
    Arranged lane es (places lane es) := by
  have hplace : ∀ {e : (Int × Stage U T) × Nat} {x : Place α},
      (lane e.1.2).map (Place.mk e.1.1 e.2) = some x → x.priority = e.1.1 ∧ x.number = e.2 := by
    intro e x hx
    obtain ⟨a, -, rfl⟩ := Option.map_eq_some_iff.mp hx
    exact ⟨rfl, rfl⟩
  have hnumbers : (numbered es).Pairwise fun a b => a.2 ≠ b.2 :=
    List.pairwise_map.mp (numbers_nodup es)
  refine ⟨fun x => mem_places, ?_, ?_, ?_⟩
  · refine hnumbers.filterMap _ ?_
    intro a b hne x hx y hy hxy
    exact hne ((hplace hx).2.symm.trans ((congrArg Place.number hxy).trans (hplace hy).2))
  · refine (numbered_inOrder es).filterMap _ ?_
    intro a b hab x hx y hy
    rw [(hplace hx).1, (hplace hy).1]
    exact hab.1
  · refine ((numbered_inOrder es).and hnumbers).filterMap _ ?_
    intro a b hab x hx y hy hp
    rw [(hplace hx).1, (hplace hy).1] at hp
    rw [(hplace hx).2, (hplace hy).2]
    exact Nat.lt_of_le_of_ne (hab.1.2 hp) hab.2

/-- The stages in the places of a lane are those that the sorted registry has on it. -/
theorem map_stage_places (lane : Stage U T → Option α) (es : List (Int × Stage U T)) :
    (places lane es).map Place.stage = (register es).sorted.filterMap fun e => lane e.2 := by
  rw [← map_numbered, List.filterMap_map, places, List.map_filterMap]
  refine List.filterMap_congr ?_
  intro e _
  cases h : lane e.1.2 <;> simp [h]

/-- A lane is in order, and it is the only one. -/
theorem exists_arranged (lane : Stage U T → Option α) (es : List (Int × Stage U T)) :
    ∃ xs, (∀ ys, Arranged lane es ys ↔ ys = xs)
      ∧ ((register es).sorted.filterMap fun e => lane e.2) = xs.map Place.stage := by
  refine ⟨places lane es, ?_, (map_stage_places lane es).symm⟩
  intro ys
  constructor
  · intro hys
    exact hys.unique (arranged_places lane es)
  · rintro rfl
    exact arranged_places lane es

/-! ## What makes no difference -/

/-- What of the entries is on a lane. -/
def onLane (lane : Stage U T → Option α) (es : List (Int × Stage U T)) : List (Int × α) :=
  es.filterMap fun e => (lane e.2).map (Prod.mk e.1)

theorem onLane_inOrder (h : InOrder es) : InOrder (onLane lane es) := by
  refine List.Pairwise.filterMap _ ?_ h
  intro a b hab x hx y hy
  obtain ⟨_, -, rfl⟩ := Option.map_eq_some_iff.mp hx
  obtain ⟨_, -, rfl⟩ := Option.map_eq_some_iff.mp hy
  exact hab

theorem ofPriority_onLane (k : Int) :
    ofPriority k (onLane lane es) = onLane lane (ofPriority k es) := by
  unfold ofPriority onLane
  rw [List.filter_filterMap, List.filterMap_filter]
  refine List.filterMap_congr ?_
  intro e _
  by_cases hk : e.1 = k <;> cases lane e.2 <;> simp [hk]

/-- **Lanes are independent.** What is on a lane decides about its order. -/
theorem onLane_sorted {r r' : Registry U T} (h : onLane lane r'.entries = onLane lane r.entries) :
    onLane lane r'.sorted = onLane lane r.sorted := by
  refine eq_of_inOrder (onLane_inOrder (sorted_inOrder r')) (onLane_inOrder (sorted_inOrder r)) ?_
  intro k
  rw [ofPriority_onLane, ofPriority_onLane, ofPriority_sorted, ofPriority_sorted,
    ← ofPriority_onLane, ← ofPriority_onLane, h]

theorem filterMap_sorted (r : Registry U T) :
    (r.sorted.filterMap fun e => lane e.2) = (onLane lane r.sorted).map Prod.snd := by
  rw [onLane, List.map_filterMap]
  refine List.filterMap_congr ?_
  intro e _
  cases lane e.2 <;> simp

/-- What the sorted registry has on a lane follows from what is registered on that lane. -/
theorem filterMap_sorted_congr {es' : List (Int × Stage U T)} (h : onLane lane es' = onLane lane es) :
    ((register es').sorted.filterMap fun e => lane e.2)
      = (register es).sorted.filterMap fun e => lane e.2 := by
  have hr : onLane lane (register es').entries = onLane lane (register es).entries := by
    simpa using h
  rw [filterMap_sorted, filterMap_sorted, onLane_sorted hr]

/-! ## The main statement -/

/-- **The order of a registry.** Whatever is registered,
* the unary lane holds the stages that have one, each once, by priority, and those of one priority in the
  order in which they were registered, and no other list of places is in this order;
* so does the streaming lane;
* a lane is the same if the same is registered on it, whatever is registered on the other lane;
* both lanes are the same if the entries of each priority are registered in the same order, wherever
  among the other entries. -/
theorem lanes_arranged (es : List (Int × Stage U T)) :
    (∃ xs, (∀ ys, Arranged Stage.onUnary? es ys ↔ ys = xs)
      ∧ (register es).unaryLane = xs.map Place.stage)
    ∧ (∃ xs, (∀ ys, Arranged Stage.onStream? es ys ↔ ys = xs)
      ∧ (register es).streamLane = xs.map Place.stage)
    ∧ (∀ es' : List (Int × Stage U T),
      (onLane Stage.onUnary? es' = onLane Stage.onUnary? es →
        (register es').unaryLane = (register es).unaryLane)
      ∧ (onLane Stage.onStream? es' = onLane Stage.onStream? es →
        (register es').streamLane = (register es).streamLane))
    ∧ ∀ es' : List (Int × Stage U T), (∀ k, ofPriority k es' = ofPriority k es) →
        (register es').unaryLane = (register es).unaryLane
          ∧ (register es').streamLane = (register es).streamLane := by
  refine ⟨exists_arranged Stage.onUnary? es, exists_arranged Stage.onStream? es, ?_, ?_⟩
  · intro es'
    exact ⟨filterMap_sorted_congr, filterMap_sorted_congr⟩
  · intro es' h
    have hsorted : (register es').sorted = (register es).sorted := by
      refine sorted_eq_iff.mpr ⟨sorted_inOrder _, ?_⟩
      intro k
      rw [ofPriority_sorted, entries_register, entries_register]
      exact (h k).symm
    unfold unaryLane streamLane
    rw [hsorted]
    exact ⟨rfl, rfl⟩

/-- A tie between stages of different lanes, registered in two orders, and once without a stage that is
on the streaming lane only. -/
theorem lanes_arranged_with_tie :
    let es : List (Int × Stage String String) :=
      [(20, .unary "b"), (10, .both "a" "x"), (20, .both "c" "y"), (10, .streaming "z")]
    let es' : List (Int × Stage String String) :=
      [(10, .both "a" "x"), (20, .unary "b"), (10, .streaming "z"), (20, .both "c" "y")]
    let fewer : List (Int × Stage String String) :=
      [(20, .unary "b"), (10, .both "a" "x"), (20, .both "c" "y")]
    (∀ k, ofPriority k es' = ofPriority k es)
      ∧ (register es').unaryLane = (register es).unaryLane
      ∧ onLane Stage.onUnary? fewer = onLane Stage.onUnary? es
      ∧ (register fewer).unaryLane = (register es).unaryLane
      ∧ (register es).unaryLane = ["a", "b", "c"] ∧ (register es).streamLane = ["x", "z", "y"] := by
  intro es es' fewer
  let inOrder : List (Int × Stage String String) :=
    [(10, .both "a" "x"), (10, .streaming "z"), (20, .unary "b"), (20, .both "c" "y")]
  have hparts : ∀ k, ofPriority k es' = ofPriority k es ∧ ofPriority k inOrder = ofPriority k es := by
    intro k
    by_cases h10 : 10 = k
    · subst h10
      exact ⟨rfl, rfl⟩
    · by_cases h20 : 20 = k
      · subst h20
        exact ⟨rfl, rfl⟩
      · simp [es, es', inOrder, ofPriority, h10, h20]
  have hsorted : (register es).sorted = inOrder :=
    sorted_eq_iff.mpr ⟨by simp [InOrder, inOrder], fun k => (hparts k).2⟩
  obtain ⟨-, -, hlane, hreordered⟩ := lanes_arranged es
  refine ⟨fun k => (hparts k).1, (hreordered es' fun k => (hparts k).1).1, rfl, (hlane fewer).1 rfl,
    ?_, ?_⟩
  · rw [unaryLane, hsorted]
    rfl
  · rw [streamLane, hsorted]
    rfl

end Turnstile.Registry
