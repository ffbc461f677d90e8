import Mathlib
import Turnstile.Ledger

/-!
# What the ledger shows

The ledger keeps entries, and shows counts: a value for each family and set of labels. A value that is
shown is the number of entries behind it, whatever the order of the series.

* `Ledger.shown`: the value of a family under some labels.
* `Ledger.shown_requests`, `Ledger.shown_durations`, `Ledger.shown_panics`: what it counts.
* `Ledger.sum_finishedCount`: the calls of a method are divided among the codes.
-/

namespace Turnstile

/-- Codes are told apart by their labels. -/
theorem Code.label_injective {c c' : Code} (h : c.label = c'.label) : c = c' := by
  cases c <;> cases c' <;> first | rfl | exact absurd h (by decide)

namespace Ledger

/-- The series that are shown under the name of a family. -/
def series (l : Ledger) (family : String) : List Series :=
  (l.families.filter fun f => f.name = family).flatMap Family.series

/-- The value that is shown under the name of a family and some labels. Where there is no such series,
nothing has been counted. -/
def shown (l : Ledger) (family : String) (labels : List (String × String)) : Nat :=
  ((l.series family).find? fun s => s.labels = labels).elim 0 Series.count

/-- A family has the series it was made of. -/
theorem mem_family? {name help family : String} {ss : List Series} {s : Series} :
    (∃ f ∈ family? name help ss, f.name = family ∧ s ∈ f.series) ↔ name = family ∧ s ∈ ss := by
  unfold family?
  cases ss with
  | nil => simp
  | cons s' ss => simp [List.mem_mergeSort]

/-- The series under a name are those of the family that has the name. -/
theorem mem_series {l : Ledger} {family : String} {s : Series} :
    s ∈ l.series family
      ↔ ("gatehouse_panics_recovered_total" = family ∧ s = ⟨[], l.recovered⟩)
        ∨ ("gatehouse_request_duration_seconds" = family ∧ s ∈ l.durationSeries)
        ∨ ("gatehouse_requests_total" = family ∧ s ∈ l.requestSeries) := by
  have hparts : s ∈ l.series family ↔ ∃ f ∈ l.families, f.name = family ∧ s ∈ f.series := by
    simp only [series, List.mem_flatMap, List.mem_filter, decide_eq_true_eq, and_assoc]
  rw [hparts]
  simp only [families, List.mem_append, or_and_right, exists_or, mem_family?, List.mem_singleton,
    or_assoc]

/-- What is shown under some labels is a number that every series with them has, if there is a series
where the number is not zero. -/
theorem shown_eq {l : Ledger} {family : String} {labels : List (String × String)} {n : Nat}
    (hall : ∀ s ∈ l.series family, s.labels = labels → s.count = n)
    (hex : n ≠ 0 → ∃ s ∈ l.series family, s.labels = labels) : l.shown family labels = n := by
  unfold shown
  cases hf : (l.series family).find? fun s => s.labels = labels with
  | none =>
    have hnone := List.find?_eq_none.mp hf
    by_contra hn
    obtain ⟨s, hs, hl⟩ := hex (Ne.symm hn)
    exact absurd (decide_eq_true hl) (hnone s hs)
  | some s =>
    have hl : s.labels = labels := by simpa using List.find?_some hf
    exact hall s (List.mem_of_find?_eq_some hf) hl

/-- The calls of a method that ended with a code. -/
theorem shown_requests (l : Ledger) (method : String) (code : Code) :
    l.shown "gatehouse_requests_total" [("code", code.label), ("method", method)]
      = l.finishedCount method code := by
  have hseries : ∀ s, s ∈ l.series "gatehouse_requests_total" ↔ s ∈ l.requestSeries := by
    intro s
    simp [mem_series]
  refine shown_eq ?_ ?_
  · intro s hs hl
    obtain ⟨⟨method', code'⟩, -, rfl⟩ := List.mem_map.mp ((hseries s).mp hs)
    obtain ⟨hcode, rfl⟩ : code'.label = code.label ∧ method' = method := by simpa using hl
    obtain rfl := Code.label_injective hcode
    rfl
  · intro hn
    have hmem : (method, code) ∈ l.finished := List.count_pos_iff.mp (Nat.pos_of_ne_zero hn)
    exact ⟨_, (hseries _).mpr (List.mem_map.mpr ⟨_, List.mem_eraseDups.mpr hmem, rfl⟩), rfl⟩

/-- The timed calls of a method. -/
theorem shown_durations (l : Ledger) (method : String) :
    l.shown "gatehouse_request_duration_seconds" [("method", method)] = l.timedCount method := by
  have hseries : ∀ s, s ∈ l.series "gatehouse_request_duration_seconds" ↔ s ∈ l.durationSeries := by
    intro s
    simp [mem_series]
  refine shown_eq ?_ ?_
  · intro s hs hl
    obtain ⟨method', -, rfl⟩ := List.mem_map.mp ((hseries s).mp hs)
    obtain rfl : method' = method := by simpa using hl
    rfl
  · intro hn
    have hmem : method ∈ l.timed := List.count_pos_iff.mp (Nat.pos_of_ne_zero hn)
    exact ⟨_, (hseries _).mpr (List.mem_map.mpr ⟨_, List.mem_eraseDups.mpr hmem, rfl⟩), rfl⟩

/-- The panics that were caught. -/
theorem shown_panics (l : Ledger) : l.shown "gatehouse_panics_recovered_total" [] = l.recovered := by
  have hseries : ∀ s, s ∈ l.series "gatehouse_panics_recovered_total" ↔ s = ⟨[], l.recovered⟩ := by
    intro s
    simp [mem_series]
  refine shown_eq ?_ ?_
  · intro s hs _
    rw [(hseries s).mp hs]
  · exact fun _ => ⟨_, (hseries _).mpr rfl, rfl⟩

/-- A call has one of the codes. -/
theorem sum_single (method : String) (entry : String × Code) :
    (Code.all.map fun code => [entry].count (method, code)).sum = [entry.1].count method := by
  obtain ⟨method', code'⟩ := entry
  by_cases hm : method' = method
  · subst hm
    cases code' <;> simp [Code.all]
  · have hne : ∀ code, [(method', code')].count (method, code) = 0 := by
      intro code
      simp [hm]
    simp [hne, hm]

/-- The calls of a method are divided among the codes. -/
theorem sum_finishedCount (l : Ledger) (method : String) :
    (Code.all.map (l.finishedCount method)).sum = (l.finished.map Prod.fst).count method := by
  unfold finishedCount
  induction l.finished with
  | nil => simp
  | cons entry entries ih =>
    have hsplit : ∀ code, (entry :: entries).count (method, code)
        = [entry].count (method, code) + entries.count (method, code) := by
      intro code
      rw [← List.count_append, List.singleton_append]
    simp only [hsplit, List.sum_map_add, ih, sum_single]
    rw [← List.count_append, List.singleton_append, List.map_cons]

end Ledger

end Turnstile
