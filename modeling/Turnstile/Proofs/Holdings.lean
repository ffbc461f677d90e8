import Turnstile.Proofs.Runs

/-!
# The buckets that a gate holds

A gate opens the bucket of a group when the group is first drawn from. Its buckets are then one for each
name of a limited group that has been called, in the order of the first calls, also where several groups
have one name. A bucket that is there stays, and changes only by what is drawn from it. In an accepted
gate every rate limit that a call can come upon has a limiter, so that a call of a limited group never
falls back on the global bucket.

* `Buckets.names`: the names under which a gate holds buckets.
* `RateGate.names_charge`, `RateGate.mem_names_settle`: the names after a call, and after a run.
* `Bucket.drained`, `RateGate.view_settle`: what draws make of a bucket, and what a run makes of it.
* `RateGate.one_held_for_each`: the buckets that a gate holds, in every run.
-/

namespace Turnstile

/-! ## Names -/

namespace Buckets

/-- The names under which buckets of groups are held, in the order in which they were opened. -/
def names (b : Buckets) : List String := b.groups.map Prod.fst

/-- Some names, and a name after them if it is not among them. -/
def enlist (names : List String) (name : String) : List String :=
  if name ∈ names then names else names ++ [name]

theorem prefix_enlist (names : List String) (name : String) : names <+: enlist names name := by
  unfold enlist
  split
  · exact List.prefix_rfl
  · exact List.prefix_append _ _

theorem mem_enlist {names : List String} {name other : String} :
    other ∈ enlist names name ↔ other ∈ names ∨ other = name := by
  unfold enlist
  by_cases h : name ∈ names
  · rw [if_pos h]
    exact ⟨.inl, fun ho => ho.elim id fun he => he ▸ h⟩
  · rw [if_neg h, List.mem_append, List.mem_singleton]

theorem nodup_enlist {names : List String} (h : names.Nodup) (name : String) :
    (enlist names name).Nodup := by
  unfold enlist
  by_cases hn : name ∈ names
  · rw [if_pos hn]
    exact h
  · rw [if_neg hn, ← List.concat_eq_append]
    exact h.concat hn

theorem enlist_cons {n name : String} (h : n ≠ name) (names : List String) :
    enlist (n :: names) name = n :: enlist names name := by
  unfold enlist
  by_cases hn : name ∈ names
  · rw [if_pos hn, if_pos (List.mem_cons_of_mem n hn)]
  · rw [if_neg hn, if_neg (by simpa [Ne.symm h] using hn), List.cons_append]

/-- Putting a bucket under a name changes the names only if the name is new. -/
theorem map_fst_put (name : String) (x : Bucket) (bs : List (String × Bucket)) :
    (put name x bs).map Prod.fst = enlist (bs.map Prod.fst) name := by
  induction bs with
  | nil => simp [put, enlist]
  | cons e rest ih =>
    obtain ⟨n, y⟩ := e
    unfold put
    by_cases hn : n = name
    · subst hn
      simp [enlist]
    · rw [if_neg hn, List.map_cons, List.map_cons, ih, enlist_cons hn]

/-- There is a bucket under each of the names and under no other. -/
theorem mem_names_iff {b : Buckets} {name : String} : name ∈ b.names ↔ ∃ x, b.find? name = some x := by
  unfold names find?
  induction b.groups with
  | nil => simp
  | cons e rest ih =>
    obtain ⟨n, y⟩ := e
    rw [List.map_cons, List.mem_cons, List.lookup_cons]
    by_cases hn : name = n
    · simp [hn]
    · rw [beq_false_of_ne hn, ih]
      simp [hn]

end Buckets

/-! ## What draws make of a bucket -/

/-- A bucket after draws at some instants. -/
def Bucket.drained (b : Bucket) (instants : List Nat) : Bucket :=
  instants.foldl (fun b now => (b.take now).2) b

namespace RateGate

variable {g : RateGate}

/-! ## One call -/

/-- The key of a method is the name of its group, where that has a rate limit. -/
theorem key_eq_some_iff {m name : String} :
    g.key m = some name ↔ ∃ group, g.group? m = some group ∧ group.rateLimit.isSome
      ∧ group.name = name := by
  unfold key limit?
  cases g.group? m with
  | none => simp
  | some group => cases hr : group.rateLimit <;> simp [hr]

/-- **The names after a call**: the key of the method is among them. -/
theorem names_charge {m : String} {l : Limiter} (hl : g.limiter? m = some l) (now : Nat)
    (b : Buckets) : (g.charge now m b).2.names = (g.key m).elim b.names (Buckets.enlist b.names) := by
  unfold charge key
  cases hg : g.group? m with
  | none =>
    have hlim : g.limit? m = none := by simp [limit?, hg]
    rw [hlim]
    rfl
  | some group =>
    cases hr : group.rateLimit with
    | none =>
      have hlim : g.limit? m = none := by simp [limit?, hg, hr]
      rw [hlim]
      simp only [hr]
      rfl
    | some r =>
      have hlim : g.limit? m = some (group.name, r) := by simp [limit?, hg, hr]
      have hok := ofRateLimit_eq_ok hlim hl
      rw [hlim]
      simp only [hr, Option.map_some, Option.elim_some]
      cases b.find? group.name with
      | some x => exact Buckets.map_fst_put ..
      | none =>
        rw [hok]
        exact Buckets.map_fst_put ..

/-- In an accepted gate a rate limit that a call comes upon has a limiter, and the call does not touch
the global bucket. -/
theorem global_charge {global : Limiter} {resolver : Option Resolver}
    (hg : RateGate.of global resolver = .ok g) {m : String} {group : Group} {r : RateLimit}
    (hm : g.group? m = some group) (hr : group.rateLimit = some r) :
    (∃ l, Limiter.ofRateLimit r = .ok l)
      ∧ ∀ now b, (g.charge now m b).2.global = b.global := by
  obtain ⟨l, hl⟩ := exists_limiter? hg m
  have hlim : g.limit? m = some (group.name, r) := by simp [limit?, hm, hr]
  refine ⟨⟨l, ofRateLimit_eq_ok hlim hl⟩, ?_⟩
  intro now b
  obtain ⟨-, -, hother⟩ := charge_spec hl now b
  exact Option.some.inj (hother none (by simp [key, hlim]))

/-! ## Runs -/

/-- The time that passes in a run. -/
def elapsed : List Event → Nat
  | [] => 0
  | .wait nanos :: es => nanos + elapsed es
  | .call _ :: es => elapsed es

/-- A run that goes on after another. -/
theorem settle_append (now : Nat) (b : Buckets) (es es' : List Event) :
    g.settle now b (es ++ es') = g.settle (now + elapsed es) (g.settle now b es) es' := by
  induction es generalizing now b with
  | nil => rfl
  | cons e es ih =>
    cases e with
    | wait nanos =>
      simp only [List.cons_append, settle, elapsed, ih, Nat.add_assoc]
    | call m => exact ih now (g.charge now m b).2

/-- The names stay in a run, and new ones come after them. -/
theorem prefix_names_settle (hall : ∀ m, ∃ l, g.limiter? m = some l) (now : Nat) (b : Buckets)
    (es : List Event) : b.names <+: (g.settle now b es).names := by
  induction es generalizing now b with
  | nil => exact List.prefix_rfl
  | cons e es ih =>
    cases e with
    | wait nanos => exact ih (now + nanos) b
    | call m =>
      obtain ⟨l, hl⟩ := hall m
      refine List.IsPrefix.trans ?_ (ih now (g.charge now m b).2)
      rw [names_charge hl]
      cases g.key m with
      | none => exact List.prefix_rfl
      | some name => exact Buckets.prefix_enlist b.names name

/-- No name is there twice. -/
theorem nodup_names_settle (hall : ∀ m, ∃ l, g.limiter? m = some l) (now : Nat) {b : Buckets}
    (hb : b.names.Nodup) (es : List Event) : (g.settle now b es).names.Nodup := by
  induction es generalizing now b with
  | nil => exact hb
  | cons e es ih =>
    cases e with
    | wait nanos => exact ih (now + nanos) hb
    | call m =>
      obtain ⟨l, hl⟩ := hall m
      refine ih now ?_
      rw [names_charge hl]
      cases g.key m with
      | none => exact hb
      | some name => exact Buckets.nodup_enlist hb name

/-- **The names after a run** are those from before and the keys of the methods that were called. -/
theorem mem_names_settle (hall : ∀ m, ∃ l, g.limiter? m = some l) (now : Nat) (b : Buckets)
    (es : List Event) {name : String} :
    name ∈ (g.settle now b es).names
      ↔ name ∈ b.names ∨ ∃ m, Event.call m ∈ es ∧ g.key m = some name := by
  induction es generalizing now b with
  | nil => simp [settle]
  | cons e es ih =>
    cases e with
    | wait nanos => simp [settle, ih]
    | call m =>
      obtain ⟨l, hl⟩ := hall m
      have hcharge : name ∈ (g.charge now m b).2.names ↔ name ∈ b.names ∨ g.key m = some name := by
        rw [names_charge hl]
        cases g.key m with
        | none => simp
        | some other => simp [Buckets.mem_enlist, eq_comm]
      simp only [settle, ih, hcharge, List.mem_cons, Event.call.injEq, or_assoc]
      refine or_congr_right ?_
      constructor
      · rintro (hm | ⟨m', hm', hk⟩)
        · exact ⟨m, .inl rfl, hm⟩
        · exact ⟨m', .inr hm', hk⟩
      · rintro ⟨m', rfl | hm', hk⟩
        · exact .inl hk
        · exact .inr ⟨m', hm', hk⟩

/-- **A bucket after a run** is what the draws from it have made of it. -/
theorem view_settle (hall : ∀ m, ∃ l, g.limiter? m = some l) {k : Option String} (now : Nat)
    {b : Buckets} {x : Bucket} (hx : b.view k = some x) (es : List Event) :
    (g.settle now b es).view k = some (x.drained (instants (g.drawsAt k (g.draws now b es)))) := by
  induction es generalizing now b x with
  | nil => exact hx
  | cons e es ih =>
    cases e with
    | wait nanos => exact ih (now + nanos) hx
    | call m =>
      obtain ⟨l, hl⟩ := hall m
      obtain ⟨-, hview, hother⟩ := charge_spec hl now b
      simp only [settle, draws, drawsAt, instants] at ih ⊢
      by_cases hm : g.key m = k
      · subst hm
        rw [hx, Option.getD_some] at hview
        rw [ih now hview, List.filter_cons_of_pos (by simp)]
        rfl
      · rw [ih now ((hother k (Ne.symm hm)).trans hx), List.filter_cons_of_neg (by simpa using hm)]

/-! ## The main statement -/

/-- **The buckets that a gate holds.** For every accepted gate, also if groups share a name, after every
run and whatever is called then:
* there is one bucket for each name of a limited group that was called, and no other;
* the names stay, with their order, so that there are never fewer;
* the bucket under a name is what the draws from it have made of it;
* the global bucket is what the calls without a limit of their own have made of it;
* a rate limit that a call comes upon has a limiter, and the call leaves the global bucket alone. -/
theorem one_held_for_each {global : Limiter} {resolver : Option Resolver}
    (hg : RateGate.of global resolver = .ok g) (now : Nat) (es es' : List Event) :
    let b := g.settle now (g.fresh now) es
    let b' := g.settle now (g.fresh now) (es ++ es')
    let later := g.draws (now + elapsed es) b es'
    b.names.Nodup
    ∧ (∀ name, name ∈ b.names ↔ ∃ m group, Event.call m ∈ es ∧ g.group? m = some group
        ∧ group.rateLimit.isSome ∧ group.name = name)
    ∧ (∀ name, name ∈ b.names ↔ ∃ x, b.find? name = some x)
    ∧ b.names <+: b'.names
    ∧ b.groups.length ≤ b'.groups.length
    ∧ (∀ name x, b.find? name = some x →
        b'.find? name = some (x.drained (instants (g.drawsAt (some name) later))))
    ∧ b'.global = b.global.drained (instants (g.drawsAt none later))
    ∧ ∀ m group r, g.group? m = some group → group.rateLimit = some r →
        (∃ l, Limiter.ofRateLimit r = .ok l)
        ∧ ∀ now b, (g.charge now m b).2.global = b.global := by
  intro b b' later
  have hall := exists_limiter? hg
  have hgoes : b' = g.settle (now + elapsed es) b es' := settle_append ..
  have hnames : b.names <+: b'.names := by
    rw [hgoes]
    exact prefix_names_settle hall ..
  refine ⟨?_, ?_, fun _ => Buckets.mem_names_iff, hnames, ?_, ?_, ?_, ?_⟩
  · exact nodup_names_settle hall now (b := g.fresh now) List.nodup_nil es
  · intro name
    rw [mem_names_settle hall]
    simp only [key_eq_some_iff]
    constructor
    · rintro (h | ⟨m, hm, group, h⟩)
      · cases h
      · exact ⟨m, group, hm, h⟩
    · rintro ⟨m, group, hm, h⟩
      exact .inr ⟨m, hm, group, h⟩
  · simpa [Buckets.names] using hnames.length_le
  · intro name x hx
    rw [hgoes]
    exact view_settle hall (k := some name) _ hx es'
  · have hglobal := view_settle hall (k := none) (now + elapsed es) (rfl : b.view none = _) es'
    rw [hgoes]
    exact Option.some.inj hglobal
  · intro m group r hm hr
    exact global_charge hg hm hr

/-- Two groups of one name and a group without a limit: one bucket is opened, at the first call of either
group, and the calls of the two groups are drawn from it, those of the third from the global one. -/
theorem one_held_for_each_shared_name :
    let one : Policy := { rateLimit := some (.perMinute 1) }
    let three : Policy := { rateLimit := some (.perMinute 3) }
    let global : Limiter := ⟨1.0, 2, 1000000000, by decide, by decide, by decide⟩
    let g : RateGate := ⟨global, some ⟨[⟨"a", [.exact "/a.A/One"], some one⟩,
      ⟨"a", [.exact "/a.A/Two"], some three⟩, ⟨"bare", [.beginning "/bare."], none⟩]⟩⟩
    let es : List Event := [.wait 5, .call "/bare.S/A", .call "/a.A/Two", .wait 7]
    let es' : List Event := [.call "/a.A/One", .call "/bare.S/A", .call "/a.A/Two"]
    let b := g.settle 0 (g.fresh 0) es
    let b' := g.settle 0 (g.fresh 0) (es ++ es')
    RateGate.of global g.resolver = .ok g
      ∧ b.names = ["a"] ∧ b'.names = ["a"]
      ∧ (∀ x, b.find? "a" = some x → b'.find? "a" = some (x.drained [12, 12]))
      ∧ b'.global = b.global.drained [12] := by
  intro one three global g es es' b b'
  have hg : RateGate.of global g.resolver = .ok g := rfl
  obtain ⟨-, -, -, -, -, hdrained, hglobal, -⟩ := one_held_for_each hg 0 es es'
  have hlater : instants (g.drawsAt (some "a") (g.draws (0 + elapsed es) b es')) = [12, 12]
      ∧ instants (g.drawsAt none (g.draws (0 + elapsed es) b es')) = [12] := by
    constructor <;> decide +kernel +zetaReduce
  refine ⟨hg, ?_, ?_, ?_, ?_⟩
  · decide +kernel +zetaReduce
  · decide +kernel +zetaReduce
  · intro x hx
    rw [hdrained "a" x hx, hlater.1]
  · rw [hglobal, hlater.2]

end RateGate

end Turnstile
