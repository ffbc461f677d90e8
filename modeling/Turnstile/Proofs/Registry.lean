import Turnstile.Registry

/-!
# The order of a registry

Registering puts stages in the order of their priorities and leaves those of one priority in the order
in which they came. Nothing else is said of the order, and nothing else has to be: a list that is in
order of priority is determined by its parts of one priority each.

* `Registry.InOrder`, `Registry.ofPriority`: the two things by which an order is told.
* `Registry.eq_of_inOrder`: a list in order is determined by its parts.
* `Registry.sorted_eq_iff`: what a registry is sorted to.
-/

namespace Turnstile.Registry

variable {α U T : Type}

/-- The entries are in order of priority. -/
def InOrder (es : List (Int × α)) : Prop := es.Pairwise fun a b => a.1 ≤ b.1

/-- The entries of one priority. -/
def ofPriority (k : Int) (es : List (Int × α)) : List (Int × α) := es.filter fun e => e.1 = k

@[simp] theorem ofPriority_nil (k : Int) : ofPriority k ([] : List (Int × α)) = [] := rfl

theorem ofPriority_cons_self (e : Int × α) (es : List (Int × α)) :
    ofPriority e.1 (e :: es) = e :: ofPriority e.1 es := by
  simp [ofPriority]

theorem ofPriority_append (k : Int) (xs ys : List (Int × α)) :
    ofPriority k (xs ++ ys) = ofPriority k xs ++ ofPriority k ys :=
  List.filter_append xs ys

theorem mem_ofPriority {k : Int} {e : Int × α} {es : List (Int × α)} :
    e ∈ ofPriority k es ↔ e ∈ es ∧ e.1 = k := by
  simp [ofPriority]

/-- No entries of a priority that no entry has. -/
theorem ofPriority_eq_nil {k : Int} {es : List (Int × α)} (h : ∀ e ∈ es, e.1 ≠ k) :
    ofPriority k es = [] := by
  simpa [ofPriority] using h

/-- What is in a list is in every list with the same parts. -/
theorem mem_of_parts {xs ys : List (Int × α)} (h : ∀ k, ofPriority k xs = ofPriority k ys)
    {e : Int × α} (he : e ∈ xs) : e ∈ ys := by
  have hx : e ∈ ofPriority e.1 xs := mem_ofPriority.mpr ⟨he, rfl⟩
  rw [h e.1] at hx
  exact (mem_ofPriority.mp hx).1

/-- **Order and parts determine a list.** -/
theorem eq_of_inOrder {xs ys : List (Int × α)} (hx : InOrder xs) (hy : InOrder ys)
    (h : ∀ k, ofPriority k xs = ofPriority k ys) : xs = ys := by
  induction xs generalizing ys with
  | nil =>
    cases ys with
    | nil => rfl
    | cons y ys =>
      have hk := h y.1
      rw [ofPriority_cons_self] at hk
      simp at hk
  | cons x xs ih =>
    cases ys with
    | nil =>
      have hk := h x.1
      rw [ofPriority_cons_self] at hk
      simp at hk
    | cons y ys =>
      obtain ⟨hx1, hx2⟩ := List.pairwise_cons.mp hx
      obtain ⟨hy1, hy2⟩ := List.pairwise_cons.mp hy
      -- each head is in the other list, so neither priority is the greater one
      have hxy : x.1 ≤ y.1 := by
        rcases List.mem_cons.mp (mem_of_parts (fun k => (h k).symm) (List.mem_cons_self (a := y)))
          with e | hm
        · exact Int.le_of_eq (congrArg Prod.fst e.symm)
        · exact hx1 y hm
      have hyx : y.1 ≤ x.1 := by
        rcases List.mem_cons.mp (mem_of_parts h (List.mem_cons_self (a := x))) with e | hm
        · exact Int.le_of_eq (congrArg Prod.fst e.symm)
        · exact hy1 x hm
      have hk : x.1 = y.1 := Int.le_antisymm hxy hyx
      have hheads := h x.1
      rw [ofPriority_cons_self, hk, ofPriority_cons_self] at hheads
      obtain ⟨rfl, -⟩ := List.cons.inj hheads
      have htails : ∀ k, ofPriority k xs = ofPriority k ys := by
        intro k
        have hc := h k
        unfold ofPriority at hc ⊢
        rw [List.filter_cons, List.filter_cons] at hc
        split at hc
        · exact (List.cons.inj hc).2
        · exact hc
      rw [ih hx2 hy2 htails]

/-! ## Sorting -/

theorem sorted_perm (r : Registry U T) : r.sorted.Perm r.entries := List.mergeSort_perm _ _

theorem sorted_inOrder (r : Registry U T) : InOrder r.sorted := by
  have h : r.sorted.Pairwise fun a b => decide (a.1 ≤ b.1) = true :=
    List.pairwise_mergeSort (fun a b c hab hbc => by simp only [decide_eq_true_eq] at *; omega)
      (fun a b => by simp only [Bool.or_eq_true, decide_eq_true_eq]; omega) r.entries
  simpa [InOrder] using h

/-- Sorting leaves every part as it was registered. -/
theorem ofPriority_sorted (k : Int) (r : Registry U T) :
    ofPriority k r.sorted = ofPriority k r.entries := by
  have hpart : (ofPriority k r.entries).Pairwise fun a b => decide (a.1 ≤ b.1) = true := by
    refine List.pairwise_of_forall_mem_list ?_
    intro a ha b hb
    rw [(mem_ofPriority.mp ha).2, (mem_ofPriority.mp hb).2]
    simp
  -- the part is in order, so it is kept as a sublist; by its length it is all there is
  have hsub : (ofPriority k r.entries).Sublist r.sorted :=
    List.sublist_mergeSort (fun a b c hab hbc => by simp only [decide_eq_true_eq] at *; omega)
      (fun a b => by simp only [Bool.or_eq_true, decide_eq_true_eq]; omega) hpart
      List.filter_sublist
  have hparts : (ofPriority k r.entries).Sublist (ofPriority k r.sorted) := by
    have := hsub.filter fun e => e.1 = k
    simpa [ofPriority] using this
  have hlen : (ofPriority k r.sorted).length = (ofPriority k r.entries).length :=
    ((sorted_perm r).filter _).length_eq
  exact (hparts.eq_of_length hlen.symm).symm

/-- **The sorted entries** are the one list in order of priority with the parts that were
registered. -/
theorem sorted_eq_iff {r : Registry U T} {es : List (Int × Stage U T)} :
    r.sorted = es ↔ InOrder es ∧ ∀ k, ofPriority k es = ofPriority k r.entries := by
  constructor
  · rintro rfl
    exact ⟨sorted_inOrder r, fun k => ofPriority_sorted k r⟩
  · rintro ⟨ho, hp⟩
    exact eq_of_inOrder (sorted_inOrder r) ho fun k => (ofPriority_sorted k r).trans (hp k).symm

/-- Entries that were registered late and have lower priorities come first. -/
theorem sorted_append {r : Registry U T} {late early : List (Int × Stage U T)}
    (he : r.entries = early ++ late) (hl : InOrder late) (hr : InOrder early)
    (hlt : ∀ a ∈ late, ∀ b ∈ early, a.1 < b.1) : r.sorted = late ++ early := by
  refine sorted_eq_iff.mpr ⟨?_, ?_⟩
  · exact List.pairwise_append.mpr ⟨hl, hr, fun a ha b hb => Int.le_of_lt (hlt a ha b hb)⟩
  · intro k
    rw [he, ofPriority_append, ofPriority_append]
    -- one of the two parts is empty, so that it does not matter which stands first
    by_cases hk : ∃ a ∈ late, a.1 = k
    · obtain ⟨a, ha, rfl⟩ := hk
      have hnil : ofPriority a.1 early = [] :=
        ofPriority_eq_nil fun b hb => Int.ne_of_gt (hlt a ha b hb)
      simp [hnil]
    · have hnil : ofPriority k late = [] :=
        ofPriority_eq_nil fun a ha hak => hk ⟨a, ha, hak⟩
      simp [hnil]

end Turnstile.Registry
