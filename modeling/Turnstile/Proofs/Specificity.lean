import Mathlib.Data.List.Induction
import Mathlib.Data.Prod.Lex
import Mathlib.Order.Nat
import Turnstile.Resolver

/-!
# The most specific rule

Matches are compared by their ranks, and the ranks are in a linear order: by the kind of the rule, and
within a kind with the longer match first. A resolver goes through all matches in their order and keeps
the best one so far. What it ends with is the first of those that no other match comes before.

* `Rank.key`: the order of ranks, and `Rank.beats_iff`, which says that it is what matches are compared
  by.
* `Resolver.Leads`: the first of the best in a list of matches; `Resolver.leads_of_foldl`, the invariant
  of the running best.
* `Group.Matches`, `Resolver.Best`: the rank of a group's match, and the best rank of all.
* `Resolver.group?_eq_some_iff`: the group of a method is the first with a match of the best rank.
* `Resolver.resolves_to_most_specific`: resolution as a whole.
-/

namespace Turnstile

/-! ## The order of ranks -/

/-- Kinds with one place are the same. -/
theorem RuleKind.place_injective : Function.Injective RuleKind.place := by
  intro a b h
  cases a <;> cases b <;> simp_all [place]

namespace Rank

/-- The place of a rank in the order of ranks: by kind, and within a kind the longer match first. -/
def key (k : Rank) : Nat ×ₗ Natᵒᵈ := toLex (k.kind.place, OrderDual.toDual k.length)

theorem key_injective : Function.Injective key := by
  intro a b h
  obtain ⟨hplace, hlength⟩ := Prod.mk.inj (toLex.injective h)
  obtain ⟨kind, length⟩ := a
  obtain rfl := RuleKind.place_injective hplace
  obtain rfl : length = b.length := OrderDual.toDual.injective hlength
  rfl

theorem key_lt_iff (a b : Rank) :
    a.key < b.key ↔ a.kind.place < b.kind.place ∨ (a.kind = b.kind ∧ b.length < a.length) := by
  unfold key
  rw [Prod.Lex.toLex_lt_toLex, OrderDual.toDual_lt_toDual, RuleKind.place_injective.eq_iff]

theorem key_le_iff (a b : Rank) :
    a.key ≤ b.key ↔ a.kind.place < b.kind.place ∨ (a.kind = b.kind ∧ b.length ≤ a.length) := by
  unfold key
  rw [Prod.Lex.toLex_le_toLex, OrderDual.toDual_le_toDual, RuleKind.place_injective.eq_iff]

/-- **Matches are compared** by the order of their ranks. -/
theorem beats_iff (a b : Rank) : a.beats b = true ↔ a.key < b.key := by
  rw [key_lt_iff]
  simp [beats]

theorem beats_eq_false_iff (a b : Rank) : a.beats b = false ↔ b.key ≤ a.key := by
  rw [← not_lt, ← beats_iff, Bool.not_eq_true]

end Rank

/-! ## The running best -/

namespace Resolver

/-- The first of the best in a list: better than every match before it, and not beaten by any after
it. -/
def Leads (c : Rank × Group) (cs : List (Rank × Group)) : Prop :=
  ∃ before after, cs = before ++ c :: after
    ∧ (∀ d ∈ before, c.1.key < d.1.key) ∧ ∀ d ∈ after, c.1.key ≤ d.1.key

/-- No match in the list comes before the one that leads. -/
theorem Leads.le {c : Rank × Group} {cs : List (Rank × Group)} (h : Leads c cs) :
    ∀ d ∈ cs, c.1.key ≤ d.1.key := by
  obtain ⟨before, after, rfl, hbefore, hafter⟩ := h
  intro d hd
  rcases List.mem_append.mp hd with hd | hd
  · exact (hbefore d hd).le
  · rcases List.mem_cons.mp hd with rfl | hd
    · exact le_rfl
    · exact hafter d hd

/-- A match that is not better leaves the lead where it is. -/
theorem Leads.concat {b next : Rank × Group} {cs : List (Rank × Group)} (h : Leads b cs)
    (hn : b.1.key ≤ next.1.key) : Leads b (cs ++ [next]) := by
  obtain ⟨before, after, rfl, hbefore, hafter⟩ := h
  refine ⟨before, after ++ [next], by simp, hbefore, ?_⟩
  intro d hd
  rcases List.mem_append.mp hd with hd | hd
  · exact hafter d hd
  · rw [List.mem_singleton.mp hd]
    exact hn

/-- A match that is better than the one that leads takes the lead. -/
theorem Leads.overtaken {b next : Rank × Group} {cs : List (Rank × Group)} (h : Leads b cs)
    (hn : next.1.key < b.1.key) : Leads next (cs ++ [next]) :=
  ⟨cs, [], rfl, fun d hd => hn.trans_le (h.le d hd), by simp⟩

/-- **What is best so far** leads the matches so far, and there is none only before the first. -/
theorem leads_of_foldl (cs : List (Rank × Group)) :
    (cs.foldl better none = none → cs = []) ∧ ∀ c, cs.foldl better none = some c → Leads c cs := by
  induction cs using List.reverseRecOn with
  | nil => exact ⟨fun _ => rfl, fun c h => by cases h⟩
  | append_singleton cs next ih =>
    obtain ⟨hnone, hsome⟩ := ih
    rw [List.foldl_append, List.foldl_cons, List.foldl_nil]
    cases hbest : cs.foldl better none with
    | none =>
      obtain rfl := hnone hbest
      refine ⟨fun h => (by cases h), ?_⟩
      intro c h
      obtain rfl := Option.some.inj h
      exact ⟨[], [], rfl, by simp, by simp⟩
    | some b =>
      have hb := hsome b hbest
      simp only [better]
      split
      · rename_i hbeats
        refine ⟨fun h => (by cases h), ?_⟩
        intro c h
        obtain rfl := Option.some.inj h
        exact hb.overtaken ((Rank.beats_iff _ _).mp hbeats)
      · rename_i hbeats
        refine ⟨fun h => (by cases h), ?_⟩
        intro c h
        obtain rfl := Option.some.inj h
        exact hb.concat ((Rank.beats_eq_false_iff _ _).mp (by simpa using hbeats))

end Resolver

/-! ## Matches of groups -/

/-- Some rule of a group matches a method with a rank. -/
def Group.Matches (g : Group) (method : String) (k : Rank) : Prop :=
  ∃ rule ∈ g.rules, rule.rank? method = some k

/-- The rank of a match is made of the rule's kind and the length of the match. -/
theorem Rule.rank?_eq_some_iff (rule : Rule) (method : String) (k : Rank) :
    rule.rank? method = some k ↔ rule.kind = k.kind ∧ rule.length? method = some k.length := by
  unfold Rule.rank?
  rw [Option.map_eq_some_iff]
  constructor
  · rintro ⟨n, hn, rfl⟩
    exact ⟨rfl, hn⟩
  · rintro ⟨hkind, hlength⟩
    exact ⟨k.length, hlength, by rw [hkind]⟩

namespace Resolver

variable {r : Resolver} {method : String}

/-- A rank is the best for a method if some rule matches with it, and no rule of any group with one that
comes before it. -/
structure Best (r : Resolver) (method : String) (k : Rank) : Prop where
  reached : ∃ g ∈ r.groups, g.Matches method k
  unbeaten : ∀ g ∈ r.groups, ∀ k', g.Matches method k' → k.key ≤ k'.key

/-- There is at most one best rank. -/
theorem Best.unique {k k' : Rank} (h : r.Best method k) (h' : r.Best method k') : k = k' := by
  obtain ⟨g, hg, hm⟩ := h.reached
  obtain ⟨g', hg', hm'⟩ := h'.reached
  exact Rank.key_injective (le_antisymm (h.unbeaten g' hg' k' hm') (h'.unbeaten g hg k hm))

theorem mem_candidates {c : Rank × Group} :
    c ∈ r.candidates method ↔ c.2 ∈ r.groups ∧ c.2.Matches method c.1 := by
  obtain ⟨k, g⟩ := c
  unfold candidates Group.Matches
  simp only [List.mem_flatMap, List.mem_map, List.mem_filterMap, Prod.mk.injEq]
  constructor
  · rintro ⟨g, hg, k, ⟨rule, hrule, hk⟩, rfl, rfl⟩
    exact ⟨hg, rule, hrule, hk⟩
  · rintro ⟨hg, rule, hrule, hk⟩
    exact ⟨g, hg, k, ⟨rule, hrule, hk⟩, rfl, rfl⟩

/-- There is no match exactly if no rule of any group matches. -/
theorem candidates_eq_nil_iff :
    r.candidates method = [] ↔ ∀ g ∈ r.groups, ∀ rule ∈ g.rules, rule.length? method = none := by
  unfold candidates Rule.rank?
  simp [List.flatMap_eq_nil_iff, List.filterMap_eq_nil_iff]

/-- A place in the lists of many, strung together, is in the list of one of them, and what the earlier
ones have comes before it. -/
theorem exists_of_flatMap_eq {α β : Type} {f : α → List β} {xs : List α} {before after : List β}
    {b : β} (h : xs.flatMap f = before ++ b :: after) :
    ∃ front x back, xs = front ++ x :: back ∧ b ∈ f x
      ∧ ∀ y ∈ front, ∀ c ∈ f y, c ∈ before := by
  induction xs generalizing before with
  | nil => simp at h
  | cons x xs ih =>
    rw [List.flatMap_cons] at h
    rcases List.append_eq_append_iff.mp h with ⟨rest, hbefore, hrest⟩ | ⟨rest, hx, hrest⟩
    · -- the place is further on
      obtain ⟨front, y, back, rfl, hb, hfront⟩ := ih hrest
      refine ⟨x :: front, y, back, rfl, hb, ?_⟩
      intro z hz c hc
      rw [hbefore]
      rcases List.mem_cons.mp hz with rfl | hz
      · exact List.mem_append_left _ hc
      · exact List.mem_append_right _ (hfront z hz c hc)
    · cases rest with
      | cons c rest =>
        obtain ⟨rfl, -⟩ := List.cons.inj hrest
        exact ⟨[], x, xs, rfl, by rw [hx]; simp, by simp⟩
      | nil =>
        -- the place is the first of what comes after the list of `x`
        have hnext : xs.flatMap f = [] ++ b :: after := hrest.symm
        obtain ⟨front, y, back, rfl, hb, hfront⟩ := ih hnext
        rw [List.append_nil] at hx
        refine ⟨x :: front, y, back, rfl, hb, ?_⟩
        intro z hz c hc
        rcases List.mem_cons.mp hz with rfl | hz
        · rwa [← hx]
        · cases hfront z hz c hc

/-- A match that leads has the best rank, and its group is the first that has a match of this rank. -/
theorem Leads.first {k : Rank} {g : Group} (h : Leads (k, g) (r.candidates method)) :
    r.Best method k ∧ ∃ before after, r.groups = before ++ g :: after
      ∧ g.Matches method k ∧ ∀ g' ∈ before, ¬g'.Matches method k := by
  have hle := h.le
  obtain ⟨before, after, hsplit, hbefore, -⟩ := h
  have hmem : (k, g) ∈ r.candidates method := by
    rw [hsplit]
    simp
  obtain ⟨hg, hmatches⟩ := mem_candidates.mp hmem
  refine ⟨⟨⟨g, hg, hmatches⟩, ?_⟩, ?_⟩
  · intro g' hg' k' hm'
    exact hle (k', g') (mem_candidates.mpr ⟨hg', hm'⟩)
  · obtain ⟨front, x, back, hgroups, hx, hfront⟩ := exists_of_flatMap_eq hsplit
    obtain ⟨k', -, hk'⟩ := List.mem_map.mp hx
    obtain ⟨rfl, rfl⟩ := Prod.mk.inj hk'
    refine ⟨front, back, hgroups, hmatches, ?_⟩
    rintro g' hg' ⟨rule, hrule, hk⟩
    -- a match of an earlier group comes before the one that leads, which is then better
    have hearlier : (k', g') ∈ before :=
      hfront g' hg' _ (List.mem_map_of_mem (List.mem_filterMap.mpr ⟨rule, hrule, hk⟩))
    exact (hbefore (k', g') hearlier).false

/-- The first element with a property is the same wherever it is found. -/
theorem first_unique {α : Type} {P : α → Prop} {xs ys xs' ys' : List α} {a b : α}
    (h : xs ++ a :: ys = xs' ++ b :: ys') (ha : P a) (hb : P b) (hxs : ∀ x ∈ xs, ¬P x)
    (hxs' : ∀ x ∈ xs', ¬P x) : a = b := by
  rcases List.append_eq_append_iff.mp h with ⟨rest, hleft, hright⟩ | ⟨rest, hleft, hright⟩
  · cases rest with
    | nil => exact (List.cons.inj hright).1
    | cons c rest =>
      obtain ⟨rfl, -⟩ := List.cons.inj hright
      exact absurd ha (hxs' a (by rw [hleft]; simp))
  · cases rest with
    | nil => exact (List.cons.inj hright).1.symm
    | cons c rest =>
      obtain ⟨rfl, -⟩ := List.cons.inj hright
      exact absurd hb (hxs b (by rw [hleft]; simp))

/-- A method has no group exactly if no rule of any group matches it. -/
theorem group?_eq_none_iff :
    r.group? method = none ↔ ∀ g ∈ r.groups, ∀ rule ∈ g.rules, rule.length? method = none := by
  rw [← candidates_eq_nil_iff, group?, Option.map_eq_none_iff]
  constructor
  · exact (leads_of_foldl _).1
  · intro h
    rw [h]
    rfl

/-- The group of a method is the first with a match of the best rank. -/
theorem best_of_group? {g : Group} (h : r.group? method = some g) :
    ∃ k, r.Best method k ∧ ∃ before after, r.groups = before ++ g :: after
      ∧ g.Matches method k ∧ ∀ g' ∈ before, ¬g'.Matches method k := by
  obtain ⟨⟨k, _⟩, hc, rfl⟩ := Option.map_eq_some_iff.mp h
  exact ⟨k, ((leads_of_foldl _).2 _ hc).first⟩

/-- It is one of the resolver's. -/
theorem mem_of_group? {g : Group} (h : r.group? method = some g) : g ∈ r.groups := by
  obtain ⟨k, -, before, after, hgroups, -⟩ := best_of_group? h
  simp [hgroups]

/-- A method that some rule matches has a group. -/
theorem exists_group?_of_match {g : Group} (hg : g ∈ r.groups) {rule : Rule} (hrule : rule ∈ g.rules)
    {n : Nat} (hn : rule.length? method = some n) : ∃ g', r.group? method = some g' := by
  cases hgroup : r.group? method with
  | none =>
    rw [group?_eq_none_iff.mp hgroup g hg rule hrule] at hn
    cases hn
  | some g' => exact ⟨g', rfl⟩

/-- The group of a method that has a best rank has a match of it. -/
theorem Best.exists_group? {k : Rank} (h : r.Best method k) :
    ∃ g, r.group? method = some g ∧ g ∈ r.groups ∧ g.Matches method k := by
  obtain ⟨_, hother, rule, hrule, hk⟩ := h.reached
  obtain ⟨g, hgroup⟩ :=
    exists_group?_of_match hother hrule ((rule.rank?_eq_some_iff method k).mp hk).2
  obtain ⟨k', hbest, -, -, -, hmatches, -⟩ := best_of_group? hgroup
  obtain rfl := h.unique hbest
  exact ⟨g, hgroup, mem_of_group? hgroup, hmatches⟩

/-- **The group of a method** is the first with a match of the best rank, and any group that is this is
the method's. -/
theorem group?_eq_some_iff {g : Group} :
    r.group? method = some g ↔
      ∃ k, r.Best method k ∧ ∃ before after, r.groups = before ++ g :: after
        ∧ g.Matches method k ∧ ∀ g' ∈ before, ¬g'.Matches method k := by
  refine ⟨best_of_group?, ?_⟩
  rintro ⟨k, hbest, before, after, hgroups, hmatches, hbefore⟩
  obtain ⟨g', hgroup, -⟩ := hbest.exists_group?
  obtain ⟨k', hbest', before', after', hgroups', hmatches', hbefore'⟩ := best_of_group? hgroup
  obtain rfl := hbest.unique hbest'
  rw [hgroup]
  exact congrArg some (first_unique (hgroups'.symm.trans hgroups) hmatches' hmatches hbefore'
    hbefore)

end Resolver

/-! ## Which names a rule matches -/

namespace Rule

/-- An exact rule matches the equal name, over the length of its own text. -/
theorem rank?_exact_eq_some_iff (name method : String) (k : Rank) :
    (Rule.exact name).rank? method = some k ↔ method = name ∧ k = ⟨.exact, name.utf8ByteSize⟩ := by
  simp only [rank?, length?, kind, Option.map_if, Option.ite_none_right_eq_some, Option.some.injEq,
    eq_comm (b := k)]

/-- A rule for beginnings matches the names that begin with its text, over the length of that. -/
theorem rank?_beginning_eq_some_iff (text method : String) (k : Rank) :
    (Rule.beginning text).rank? method = some k
      ↔ (∃ rest, method = text ++ rest) ∧ k = ⟨.beginning, text.utf8ByteSize⟩ := by
  have hbegins : text.toList.isPrefixOf method.toList = true ↔ ∃ rest, method = text ++ rest := by
    rw [List.isPrefixOf_iff_prefix]
    constructor
    · rintro ⟨rest, hrest⟩
      exact ⟨String.ofList rest, String.toList_injective (by simp [hrest])⟩
    · rintro ⟨rest, rfl⟩
      exact ⟨rest.toList, by simp⟩
  simp only [rank?, length?, kind, Option.map_if, Option.ite_none_right_eq_some, Option.some.injEq,
    hbegins, eq_comm (b := k)]

/-- A pattern matches as its matcher says. -/
theorem rank?_pattern_eq_some_iff (matcher : Matcher) (method : String) (k : Rank) :
    (Rule.pattern matcher).rank? method = some k
      ↔ ∃ n, matcher.find? method = some n ∧ k = ⟨.pattern, n⟩ := by
  simp only [rank?, length?, kind, Option.map_eq_some_iff, eq_comm (b := k)]

end Rule

/-! ## The main statement -/

/-- **Resolution picks the most specific rule.** For every list of groups, with any rules, and every
method:
* the method has no group exactly if no rule of any group matches it;
* a group is the method's exactly if it is the first one with a match of the best rank, where no match of
  any group has a rank that comes before it;
* ranks are in the order of their kinds, exact names before beginnings before patterns, and within a kind
  the longer match comes first;
* the method resolves to the name and the policy of its group;
* an exact rule matches the equal name, a rule for beginnings every name that begins with its text, both
  over the length of their own text in bytes, and a pattern matches as its matcher says. -/
theorem Resolver.resolves_to_most_specific (r : Resolver) (method : String) :
    (r.group? method = none ↔ ∀ g ∈ r.groups, ∀ rule ∈ g.rules, rule.length? method = none)
    ∧ (∀ g, r.group? method = some g ↔
        ∃ k, r.Best method k ∧ ∃ before after, r.groups = before ++ g :: after
          ∧ g.Matches method k ∧ ∀ g' ∈ before, ¬g'.Matches method k)
    ∧ (∀ k k' : Rank, k.key ≤ k'.key ↔
        k.kind.place < k'.kind.place ∨ (k.kind = k'.kind ∧ k'.length ≤ k.length))
    ∧ (RuleKind.exact.place < RuleKind.beginning.place
        ∧ RuleKind.beginning.place < RuleKind.pattern.place)
    ∧ (∀ name policy, r.resolve? method = some (name, policy) ↔
        ∃ g, r.group? method = some g ∧ g.name = name ∧ g.policy = policy)
    ∧ (∀ name k, (Rule.exact name).rank? method = some k ↔
        method = name ∧ k = ⟨.exact, name.utf8ByteSize⟩)
    ∧ (∀ text k, (Rule.beginning text).rank? method = some k ↔
        (∃ rest, method = text ++ rest) ∧ k = ⟨.beginning, text.utf8ByteSize⟩)
    ∧ ∀ matcher k, (Rule.pattern matcher).rank? method = some k ↔
        ∃ n, matcher.find? method = some n ∧ k = ⟨.pattern, n⟩ := by
  refine ⟨group?_eq_none_iff, fun g => group?_eq_some_iff, Rank.key_le_iff, by decide, ?_,
    fun name k => Rule.rank?_exact_eq_some_iff name method k,
    fun text k => Rule.rank?_beginning_eq_some_iff text method k,
    fun matcher k => Rule.rank?_pattern_eq_some_iff matcher method k⟩
  intro name policy
  unfold resolve?
  simp [Option.map_eq_some_iff]

end Turnstile
