import Mathlib.Data.List.Forall2
import Turnstile.Proofs.Specificity

/-!
# Groups in another order

The order of groups, and of the rules in a group, matters to a method only where two groups tie for it.
Two exact rules, or two rules for beginnings, that match one name over the same length have the same
text. So if no such rule is in two groups, groups can tie only over patterns, and any match of another
kind comes before those of patterns.

* `Rule.eq_of_rank?`: a name and a rank leave one rule, unless it is a pattern.
* `Resolver.Reordered`: the same groups, with the same rules, in another order.
* `Resolver.Unshared`: no rule but a pattern is in two groups.
* `Resolver.resolve?_reordered`: what another order leaves as it is.
-/

namespace Turnstile

/-! ## Rules that match a name with one rank -/

/-- Two beginnings of a name that have the same length in bytes are the same. -/
theorem eq_of_append_eq_append {text text' rest rest' : String}
    (h : text ++ rest = text' ++ rest') (hlength : text.utf8ByteSize = text'.utf8ByteSize) :
    text = text' := by
  -- what the longer one has more takes up no bytes
  have hlonger : ∀ {s t : String} {more : List Char}, t.toList = s.toList ++ more →
      s.utf8ByteSize = t.utf8ByteSize → s = t := by
    intro s t more ht hsize
    have hmore : t = s ++ String.ofList more := String.toList_injective (by simp [ht])
    have hempty : (String.ofList more).utf8ByteSize = 0 := by
      rw [hmore, String.utf8ByteSize_append] at hsize
      omega
    rw [hmore, String.utf8ByteSize_eq_zero_iff.mp hempty, String.append_empty]
  have hlists := congrArg String.toList h
  rw [String.toList_append, String.toList_append] at hlists
  rcases List.append_eq_append_iff.mp hlists with ⟨more, hmore, -⟩ | ⟨more, hmore, -⟩
  · exact hlonger hmore hlength
  · exact (hlonger hmore hlength.symm).symm

/-- **A name and a rank leave one rule**, unless it is a pattern. -/
theorem Rule.eq_of_rank? {rule rule' : Rule} {method : String} {k : Rank}
    (h : rule.rank? method = some k) (h' : rule'.rank? method = some k) (hk : k.kind ≠ .pattern) :
    rule = rule' := by
  have hkind := ((rule.rank?_eq_some_iff method k).mp h).1
  have hkind' := ((rule'.rank?_eq_some_iff method k).mp h').1
  cases rule with
  | pattern matcher => exact absurd hkind.symm hk
  | exact name =>
    cases rule' with
    | exact name' =>
      obtain ⟨hname, -⟩ := (rank?_exact_eq_some_iff ..).mp h
      obtain ⟨hname', -⟩ := (rank?_exact_eq_some_iff ..).mp h'
      rw [← hname, ← hname']
    | beginning | pattern => cases hkind.trans hkind'.symm
  | beginning text =>
    cases rule' with
    | beginning text' =>
      obtain ⟨⟨rest, hrest⟩, hlength⟩ := (rank?_beginning_eq_some_iff ..).mp h
      obtain ⟨⟨rest', hrest'⟩, hlength'⟩ := (rank?_beginning_eq_some_iff ..).mp h'
      have hsize := congrArg Rank.length (hlength.symm.trans hlength')
      rw [eq_of_append_eq_append (hrest.symm.trans hrest') hsize]
    | exact | pattern => cases hkind.trans hkind'.symm

/-- Only patterns come after a match of another kind. -/
theorem Rank.kind_ne_pattern {k k' : Rank} (hle : k.key ≤ k'.key) (hk' : k'.kind ≠ .pattern) :
    k.kind ≠ .pattern := by
  intro hk
  rw [Rank.key_le_iff, hk] at hle
  rcases hle with hless | ⟨hsame, -⟩
  · cases hkind : k'.kind with
    | pattern => exact hk' hkind
    | exact | beginning => simp [hkind, RuleKind.place] at hless
  · exact hk' hsame.symm

/-! ## The same groups in another order -/

/-- The same group, with its rules in some order. -/
structure Group.Reordered (g g' : Group) : Prop where
  name : g'.name = g.name
  policy : g'.policy = g.policy
  rules : g'.rules.Perm g.rules

theorem Group.Reordered.matches_iff {g g' : Group} (h : g.Reordered g') (method : String)
    (k : Rank) : g'.Matches method k ↔ g.Matches method k := by
  unfold Group.Matches
  simp only [h.rules.mem_iff]

namespace Resolver

variable {r r' : Resolver} {method : String} {k : Rank}

/-- The same groups in some order, each with its rules in some order. -/
def Reordered (r r' : Resolver) : Prop :=
  ∃ gs, List.Forall₂ Group.Reordered r.groups gs ∧ gs.Perm r'.groups

/-- Each group is found again. -/
theorem Reordered.exists_of_mem (h : r.Reordered r') {g : Group} (hg : g ∈ r.groups) :
    ∃ g' ∈ r'.groups, g.Reordered g' := by
  obtain ⟨gs, hgroups, hperm⟩ := h
  obtain ⟨hlength, hget⟩ := List.forall₂_iff_get.mp hgroups
  obtain ⟨i, hi, rfl⟩ := List.getElem_of_mem hg
  have hi' : i < gs.length := hlength ▸ hi
  exact ⟨gs[i], hperm.mem_iff.mp (List.getElem_mem hi'), hget i hi hi'⟩

/-- No group is new. -/
theorem Reordered.exists_of_mem_reordered (h : r.Reordered r') {g' : Group} (hg' : g' ∈ r'.groups) :
    ∃ g ∈ r.groups, g.Reordered g' := by
  obtain ⟨gs, hgroups, hperm⟩ := h
  obtain ⟨hlength, hget⟩ := List.forall₂_iff_get.mp hgroups
  obtain ⟨i, hi', rfl⟩ := List.getElem_of_mem (hperm.mem_iff.mpr hg')
  have hi : i < r.groups.length := hlength ▸ hi'
  exact ⟨r.groups[i], List.getElem_mem hi, hget i hi hi'⟩

/-- The best rank does not depend on the order. -/
theorem Best.reordered (h : r.Best method k) (hr : r.Reordered r') : r'.Best method k := by
  obtain ⟨g, hg, hmatches⟩ := h.reached
  obtain ⟨g', hg', hsame⟩ := hr.exists_of_mem hg
  refine ⟨⟨g', hg', (hsame.matches_iff method k).mpr hmatches⟩, ?_⟩
  intro other hother k' hmatches'
  obtain ⟨g₁, hg₁, hsame₁⟩ := hr.exists_of_mem_reordered hother
  exact h.unbeaten g₁ hg₁ k' ((hsame₁.matches_iff method k').mp hmatches')

/-! ## Groups that share no rule -/

/-- No rule but a pattern is in two groups. -/
def Unshared (r : Resolver) : Prop :=
  ∀ g ∈ r.groups, ∀ g' ∈ r.groups, ∀ rule ∈ g.rules, rule ∈ g'.rules →
    rule.kind ≠ .pattern → g = g'

/-- Then only one group has a match of a certain rank, unless that is a pattern's. -/
theorem Unshared.eq_of_matches (h : r.Unshared) {g g' : Group} (hg : g ∈ r.groups)
    (hg' : g' ∈ r.groups) (hm : g.Matches method k) (hm' : g'.Matches method k)
    (hk : k.kind ≠ .pattern) : g = g' := by
  obtain ⟨rule, hrule, hrank⟩ := hm
  obtain ⟨rule', hrule', hrank'⟩ := hm'
  obtain rfl := Rule.eq_of_rank? hrank hrank' hk
  refine h g hg g' hg' rule hrule hrule' ?_
  rw [((rule.rank?_eq_some_iff method k).mp hrank).1]
  exact hk

/-! ## The main statement -/

/-- A method that some rule matches has a best rank, and it is no pattern's if the rule is none. -/
theorem exists_best {g : Group} (hg : g ∈ r.groups) {rule : Rule} (hrule : rule ∈ g.rules)
    (hkind : rule.kind ≠ .pattern) (hm : (rule.length? method).isSome) :
    ∃ k, r.Best method k ∧ k.kind ≠ .pattern := by
  obtain ⟨n, hn⟩ := Option.isSome_iff_exists.mp hm
  have hrank : rule.rank? method = some ⟨rule.kind, n⟩ :=
    (rule.rank?_eq_some_iff ..).mpr ⟨rfl, hn⟩
  obtain ⟨_, hgroup⟩ := exists_group?_of_match hg hrule hn
  obtain ⟨k, hbest, -⟩ := best_of_group? hgroup
  exact ⟨k, hbest, Rank.kind_ne_pattern (hbest.unbeaten g hg _ ⟨rule, hrule, hrank⟩) hkind⟩

/-- **Another order leaves a method where it is**, if no rule but a pattern is in two groups, and an exact
rule or a rule for beginnings matches the method: in every order of the groups, and of the rules in each,
the method has the same group, and resolves to its name and its policy. Patterns may be in any group. -/
theorem resolve?_reordered (hu : r.Unshared) (hr : r.Reordered r')
    (hm : ∃ g ∈ r.groups, ∃ rule ∈ g.rules,
      rule.kind ≠ .pattern ∧ (rule.length? method).isSome) :
    ∃ g ∈ r.groups, ∃ g' ∈ r'.groups, g.Reordered g'
      ∧ r.group? method = some g ∧ r'.group? method = some g'
      ∧ r.resolve? method = some (g.name, g.policy)
      ∧ r'.resolve? method = r.resolve? method := by
  obtain ⟨g₀, hg₀, rule, hrule, hkind, hsome⟩ := hm
  obtain ⟨k, hbest, hk⟩ := exists_best hg₀ hrule hkind hsome
  obtain ⟨g, hgroup, hg, hmatches⟩ := hbest.exists_group?
  obtain ⟨g', hgroup', hg', hmatches'⟩ := (hbest.reordered hr).exists_group?
  obtain ⟨g₁, hg₁, hsame⟩ := hr.exists_of_mem_reordered hg'
  -- the group in the other order is the same, for no other has a match of this rank
  obtain rfl := hu.eq_of_matches hg hg₁ hmatches ((hsame.matches_iff method k).mp hmatches') hk
  refine ⟨g, hg, g', hg', hsame, hgroup, hgroup', ?_, ?_⟩
  · rw [resolve?, hgroup]
    rfl
  · rw [resolve?, resolve?, hgroup, hgroup', Option.map_some, Option.map_some, hsame.name,
      hsame.policy]

/-- Three groups, and the same from the last to the first with the rules of one group exchanged. One
pattern is in two of them and matches everything; the longer of two beginnings decides. -/
theorem resolve?_reordered_three_groups :
    let all : Rule := .pattern ⟨".*", fun method => some method.utf8ByteSize⟩
    let five : Policy := { timeout := some (.ofWholeSeconds 5) }
    let a : Group := ⟨"a", [.exact "/s.S/Get", all], none⟩
    let b : Group := ⟨"b", [.beginning "/s."], none⟩
    let c : Group := ⟨"c", [all, .beginning "/s.S/"], some five⟩
    let c' : Group := ⟨"c", [.beginning "/s.S/", all], some five⟩
    Unshared ⟨[a, b, c]⟩ ∧ Reordered ⟨[a, b, c]⟩ ⟨[c', b, a]⟩
      ∧ resolve? ⟨[a, b, c]⟩ "/s.S/List" = some ("c", some five)
      ∧ resolve? ⟨[c', b, a]⟩ "/s.S/List" = some ("c", some five) := by
  intro all five a b c c'
  have hu : Unshared ⟨[a, b, c]⟩ := by
    intro g hg g' hg' rule hrule hrule' hkind
    simp only [List.mem_cons, List.not_mem_nil, or_false] at hg hg'
    cases rule with
    | pattern => exact absurd rfl hkind
    | exact | beginning =>
      rcases hg with rfl | rfl | rfl <;> rcases hg' with rfl | rfl | rfl <;>
        simp_all [a, b, c, all]
  have hsame : ∀ g : Group, g.Reordered g := fun g => ⟨rfl, rfl, .refl _⟩
  have hr : Reordered ⟨[a, b, c]⟩ ⟨[c', b, a]⟩ :=
    ⟨[a, b, c'], .cons (hsame a) (.cons (hsame b) (.cons ⟨rfl, rfl, .swap ..⟩ .nil)),
      List.reverse_perm [c', b, a]⟩
  have hc : resolve? ⟨[a, b, c]⟩ "/s.S/List" = some ("c", some five) := by decide +kernel
  have hm : ∃ g ∈ [a, b, c], ∃ rule ∈ g.rules,
      rule.kind ≠ .pattern ∧ (rule.length? "/s.S/List").isSome :=
    ⟨c, by simp, .beginning "/s.S/", by simp [c], by decide, by decide +kernel⟩
  obtain ⟨-, -, -, -, -, -, -, -, hc'⟩ := resolve?_reordered hu hr hm
  exact ⟨hu, hr, hc, hc'.trans hc⟩

end Resolver

end Turnstile
