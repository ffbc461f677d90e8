import Mathlib.Data.List.Nodup
import Turnstile.RateGate
import Turnstile.Proofs.Bucket
import Turnstile.Proofs.Specificity

/-!
# One call at a rate gate

A gate keeps a global bucket and opens one for a group when the group is first drawn from. A method's
key tells which of them it draws from: it is the name of the method's group, if that has a rate limit.

* `RateGate.key`, `RateGate.limiter?`: the bucket that a method draws from, and its limiter.
* `RateGate.charge_spec`: all that one call does.
* `RateGate.exists_limiter?`: in an accepted gate every method has a limiter.
* `RateGate.DistinctNames.limiter?_eq`: with distinct names, methods of one key have the same.
-/

namespace Turnstile

/-! ## Buckets by key -/

namespace Buckets

/-- The bucket under a key: the global one, or that of a group by its name. -/
def view (b : Buckets) : Option String → Option Bucket
  | none => some b.global
  | some name => b.find? name

theorem lookup_put_self (name : String) (x : Bucket) (bs : List (String × Bucket)) :
    (put name x bs).lookup name = some x := by
  induction bs with
  | nil => simp [put]
  | cons e rest ih =>
    obtain ⟨n, y⟩ := e
    unfold put
    by_cases hn : n = name
    · rw [if_pos hn, hn]
      simp
    · rw [if_neg hn, List.lookup_cons, ih]
      have hne : (name == n) = false := by simpa using fun h : name = n => hn h.symm
      rw [hne]

theorem lookup_put_of_ne {name other : String} (h : other ≠ name) (x : Bucket)
    (bs : List (String × Bucket)) : (put name x bs).lookup other = bs.lookup other := by
  induction bs with
  | nil =>
    have hne : (other == name) = false := by simpa using h
    simp [put, List.lookup_cons, hne]
  | cons e rest ih =>
    obtain ⟨n, y⟩ := e
    unfold put
    by_cases hn : n = name
    · have hne : (other == n) = false := by simpa [hn] using h
      rw [if_pos hn, List.lookup_cons, List.lookup_cons, hne]
    · rw [if_neg hn, List.lookup_cons, List.lookup_cons, ih]

end Buckets

namespace RateGate

/-! ## Keys and limiters of methods -/

/-- The rate limit of a method's group, if it has one, with the group's name. -/
def limit? (g : RateGate) (method : String) : Option (String × RateLimit) :=
  (g.group? method).bind fun group => group.rateLimit.map fun r => (group.name, r)

/-- The key of the bucket that a method draws from; none is the key of the global one. -/
def key (g : RateGate) (method : String) : Option String := (g.limit? method).map Prod.fst

/-- The limiter that a method is held to. -/
def limiter? (g : RateGate) (method : String) : Option Limiter :=
  match g.limit? method with
  | none => some g.global
  | some (_, r) => (Limiter.ofRateLimit r).toOption

/-- The limiter of a method whose group has a rate limit is made from that. -/
theorem ofRateLimit_eq_ok {g : RateGate} {method name : String} {r : RateLimit} {l : Limiter}
    (hr : g.limit? method = some (name, r)) (hl : g.limiter? method = some l) :
    Limiter.ofRateLimit r = .ok l := by
  unfold limiter? at hl
  rw [hr] at hl
  dsimp only at hl
  cases ho : Limiter.ofRateLimit r with
  | error e => rw [ho] at hl; cases hl
  | ok l' => rw [ho] at hl; rw [Option.some.inj hl]

/-- **One call.** It takes from the bucket under the method's key, or from a full one if that has not
been opened, puts it back, and leaves all other buckets alone. -/
theorem charge_spec {g : RateGate} {method : String} {l : Limiter}
    (hl : g.limiter? method = some l) (now : Nat) (b : Buckets) :
    (g.charge now method b).1.allowed
        = (((b.view (g.key method)).getD (.fresh l now)).take now).1
      ∧ (g.charge now method b).2.view (g.key method)
        = some (((b.view (g.key method)).getD (.fresh l now)).take now).2
      ∧ ∀ k, k ≠ g.key method → (g.charge now method b).2.view k = b.view k := by
  unfold charge key
  cases hg : g.group? method with
  | none =>
    have hlim : g.limit? method = none := by simp [limit?, hg]
    rw [hlim]
    refine ⟨rfl, rfl, ?_⟩
    intro k hk
    cases k with
    | none => exact absurd rfl hk
    | some name => rfl
  | some group =>
    cases hr : group.rateLimit with
    | none =>
      have hlim : g.limit? method = none := by simp [limit?, hg, hr]
      rw [hlim]
      refine ⟨by simp [hr, Buckets.takeGlobal, Buckets.view], by simp [hr]; rfl, ?_⟩
      intro k hk
      cases k with
      | none => exact absurd rfl hk
      | some name => simp [hr]; rfl
    | some r =>
      have hlim : g.limit? method = some (group.name, r) := by simp [limit?, hg, hr]
      have hok := ofRateLimit_eq_ok hlim hl
      rw [hlim]
      simp only [hr, Option.map_some, Buckets.view]
      cases hf : b.find? group.name with
      | some x =>
        refine ⟨rfl, Buckets.lookup_put_self .., ?_⟩
        intro k hk
        cases k with
        | none => rfl
        | some name => exact Buckets.lookup_put_of_ne (fun h => hk (by rw [h])) ..
      | none =>
        rw [hok]
        refine ⟨rfl, Buckets.lookup_put_self .., ?_⟩
        intro k hk
        cases k with
        | none => rfl
        | some name => exact Buckets.lookup_put_of_ne (fun h => hk (by rw [h])) ..

/-- A method that falls under the global limiter, or under a group whose name is its key. -/
theorem limit?_eq_some_of_key {g : RateGate} {method name : String} (h : g.key method = some name) :
    ∃ r, g.limit? method = some (name, r) := by
  obtain ⟨⟨n, r⟩, hr, rfl⟩ := Option.map_eq_some_iff.mp h
  exact ⟨r, hr⟩

/-! ## Gates that are accepted -/

/-- The groups of a resolver, if there is one. -/
def groupsOf (resolver : Option Resolver) : List Group := (resolver.map Resolver.groups).getD []

/-- The groups with a rate limit have names of their own. -/
def DistinctNames (resolver : Option Resolver) : Prop :=
  (((groupsOf resolver).filter fun group => group.rateLimit.isSome).map Group.name).Nodup

instance (resolver : Option Resolver) : Decidable (DistinctNames resolver) :=
  inferInstanceAs (Decidable (List.Nodup _))

theorem checkGroups_eq_ok {groups : List Group} (h : checkGroups groups = .ok ()) :
    ∀ group ∈ groups, ∀ r, group.rateLimit = some r → ∃ l, Limiter.ofRateLimit r = .ok l := by
  induction groups with
  | nil => intro group hg; cases hg
  | cons head groups ih =>
    intro group hg r hr
    unfold checkGroups at h
    rcases List.mem_cons.mp hg with rfl | hg
    · rw [hr] at h
      dsimp only at h
      cases ho : Limiter.ofRateLimit r with
      | error e => rw [ho] at h; cases h
      | ok l => exact ⟨l, rfl⟩
    · refine ih ?_ group hg r hr
      split at h
      · exact h
      · split at h
        · exact h
        · cases h

/-- An accepted gate is made of what it was given, and every rate limit of a group has a limiter. -/
theorem of_eq_ok {global : Limiter} {resolver : Option Resolver} {g : RateGate}
    (h : RateGate.of global resolver = .ok g) :
    g = ⟨global, resolver⟩ ∧ ∀ group ∈ groupsOf resolver, ∀ r, group.rateLimit = some r →
      ∃ l, Limiter.ofRateLimit r = .ok l := by
  unfold RateGate.of at h
  split at h
  · exact ⟨(Except.ok.inj h).symm, checkGroups_eq_ok ‹_›⟩
  · cases h

/-- A rate limit that holds for a method is that of one of the resolver's groups. -/
theorem exists_group_of_limit? {g : RateGate} {method name : String} {r : RateLimit}
    (h : g.limit? method = some (name, r)) :
    ∃ group ∈ groupsOf g.resolver, group.name = name ∧ group.rateLimit = some r := by
  obtain ⟨group, hg, hr⟩ := Option.bind_eq_some_iff.mp h
  obtain ⟨resolver, hs, hg⟩ := Option.bind_eq_some_iff.mp hg
  obtain ⟨r', hr', he⟩ := Option.map_eq_some_iff.mp hr
  obtain ⟨rfl, rfl⟩ := Prod.mk.inj he
  refine ⟨group, ?_, rfl, hr'⟩
  rw [groupsOf, hs]
  exact Resolver.mem_of_group? hg

/-- In an accepted gate every method is held to a limiter. -/
theorem exists_limiter? {global : Limiter} {resolver : Option Resolver} {g : RateGate}
    (h : RateGate.of global resolver = .ok g) (method : String) :
    ∃ l, g.limiter? method = some l := by
  obtain ⟨rfl, hall⟩ := of_eq_ok h
  unfold limiter?
  cases hr : limit? ⟨global, resolver⟩ method with
  | none => exact ⟨global, rfl⟩
  | some limit =>
    obtain ⟨name, r⟩ := limit
    obtain ⟨group, hg, -, hlim⟩ := exists_group_of_limit? hr
    obtain ⟨l, hl⟩ := hall group hg r hlim
    refine ⟨l, ?_⟩
    dsimp only
    rw [hl]
    rfl

/-- With distinct names, two groups with rate limits and one name are the same group. -/
theorem DistinctNames.eq_of_name_eq {resolver : Option Resolver} (hd : DistinctNames resolver)
    {x y : Group} (hx : x ∈ groupsOf resolver) (hy : y ∈ groupsOf resolver)
    (hxr : x.rateLimit.isSome) (hyr : y.rateLimit.isSome) (h : x.name = y.name) : x = y :=
  List.inj_on_of_nodup_map hd (List.mem_filter.mpr ⟨hx, hxr⟩) (List.mem_filter.mpr ⟨hy, hyr⟩) h

/-- With distinct names, methods of one key are held to one limiter. -/
theorem DistinctNames.limiter?_eq {g : RateGate} (hd : DistinctNames g.resolver)
    {m m' : String} (h : g.key m = g.key m') : g.limiter? m = g.limiter? m' := by
  unfold limiter?
  cases hk : g.key m with
  | none =>
    have hm : g.limit? m = none := Option.map_eq_none_iff.mp hk
    have hm' : g.limit? m' = none := Option.map_eq_none_iff.mp (h ▸ hk)
    rw [hm, hm']
  | some name =>
    obtain ⟨r, hr⟩ := limit?_eq_some_of_key hk
    obtain ⟨r', hr'⟩ := limit?_eq_some_of_key (h ▸ hk)
    obtain ⟨x, hx, hxn, hxr⟩ := exists_group_of_limit? hr
    obtain ⟨y, hy, hyn, hyr⟩ := exists_group_of_limit? hr'
    have hxy := hd.eq_of_name_eq hx hy (by simp [hxr]) (by simp [hyr]) (hxn.trans hyn.symm)
    rw [hxy, hyr] at hxr
    rw [hr, hr', Option.some.inj hxr]

end RateGate

end Turnstile
