import Turnstile.Proofs.Isolation

/-!
# Whose limit a method is held to

A gate keeps the bucket of a group under the group's name and makes it when the name is first drawn
from. If two groups with rate limits have one name, they share a bucket, and its terms are those of the
group that was called first. A method is held to the limit of its own policy, whatever was called before
it, exactly if groups of one name have limits of the same terms.

* `RateGate.rulings`: the calls of a run that the bucket of a group decides.
* `RateGate.limiter_ruling`: a bucket has the limiter of the first method that drew from it.
* `RateGate.held_to_first`: whose terms hold for a method, and when they are its own.
* `RateGate.held_to_another`: two groups of one name, and a method held to the other's limit.
-/

namespace Turnstile

/-! ## Terms -/

/-- The terms on which a limiter admits requests. -/
structure Terms where
  burst : Nat
  period : Nat
  deriving DecidableEq, Repr

/-- The terms of a limiter. -/
def Limiter.terms (l : Limiter) : Terms := ⟨l.burst, l.period⟩

/-- The terms that a rate limit asks for: its requests at once, and its window shared out among them. -/
def RateLimit.terms (r : RateLimit) : Terms := ⟨r.rate, r.window.nanos / r.rate⟩

/-- A limiter that is made from a rate limit has the terms it asks for. -/
theorem Limiter.terms_eq_of_ofRateLimit {r : RateLimit} {l : Limiter}
    (h : Limiter.ofRateLimit r = .ok l) : l.terms = r.terms := by
  obtain ⟨hperiod, hburst⟩ := Limiter.terms_ofRateLimit h
  rw [Limiter.terms, RateLimit.terms, hperiod, hburst]

namespace RateGate

/-- The terms of the policy that the resolver finds for a method, if that has a rate limit. -/
def terms? (g : RateGate) (method : String) : Option Terms :=
  (g.resolver.bind (·.resolve? method)).bind fun (_, policy) =>
    (policy.bind Policy.rateLimit).map RateLimit.terms

/-- The terms of a method's policy are those of its rate limit. -/
theorem terms?_eq (g : RateGate) (method : String) :
    g.terms? method = (g.limit? method).map fun (_, r) => r.terms := by
  unfold terms? limit? group?
  cases g.resolver with
  | none => rfl
  | some s =>
    simp only [Option.bind_some, Resolver.resolve?]
    cases s.group? method with
    | none => rfl
    | some group =>
      simp only [Option.map_some, Option.bind_some, Group.rateLimit, Option.map_map]
      rfl

/-- A method that draws from the bucket of a group is held to a limiter of its policy's terms. -/
theorem terms?_of_limiter? {g : RateGate} {m name : String} {l : Limiter}
    (hk : g.key m = some name) (hl : g.limiter? m = some l) : g.terms? m = some l.terms := by
  obtain ⟨r, hr⟩ := limit?_eq_some_of_key hk
  rw [terms?_eq, hr, Option.map_some, Limiter.terms_eq_of_ofRateLimit (ofRateLimit_eq_ok hr hl)]

/-- A policy without a rate limit has no terms. -/
theorem terms?_of_key {g : RateGate} {m : String} (hk : g.key m = none) : g.terms? m = none := by
  rw [terms?_eq, Option.map_eq_none_iff.mp hk, Option.map_none]

/-! ## The bucket that decides a call -/

/-- The bucket of a group that a call draws from: the one under the group's name, or a full one for the
method's own limit. -/
def drawn? (g : RateGate) (now : Nat) (method : String) (b : Buckets) : Option Bucket :=
  (g.limit? method).bind fun (name, r) =>
    (b.find? name).or ((Limiter.ofRateLimit r).toOption.map (.fresh · now))

theorem drawn?_of_key {g : RateGate} {m : String} (hk : g.key m = none) (now : Nat) (b : Buckets) :
    g.drawn? now m b = none := by
  rw [drawn?, Option.map_eq_none_iff.mp hk, Option.bind_none]

theorem drawn?_eq_some {g : RateGate} {m name : String} {l : Limiter} (hk : g.key m = some name)
    (hl : g.limiter? m = some l) (now : Nat) (b : Buckets) :
    g.drawn? now m b = some ((b.find? name).getD (.fresh l now)) := by
  obtain ⟨r, hr⟩ := limit?_eq_some_of_key hk
  rw [drawn?, hr, Option.bind_some]
  dsimp only
  rw [ofRateLimit_eq_ok hr hl]
  cases b.find? name with
  | none => rfl
  | some x => rfl

/-- A call that the bucket of a group has decided: when it came, the bucket as the call found it, and
the answer. -/
structure Ruling where
  instant : Nat
  method : String
  bucket : Bucket
  allowed : Bool

/-- The calls of a run that the bucket of a group decides. -/
def rulings (g : RateGate) (now : Nat) (b : Buckets) : List Event → List Ruling
  | [] => []
  | .wait nanos :: es => g.rulings (now + nanos) b es
  | .call m :: es =>
    let (verdict, b') := g.charge now m b
    match g.drawn? now m b with
    | none => g.rulings now b' es
    | some bucket => ⟨now, m, bucket, verdict.allowed⟩ :: g.rulings now b' es

/-- A call of a method whose group has no rate limit is none of the rulings. -/
theorem rulings_call_of_key {g : RateGate} {m : String} (hk : g.key m = none) (now : Nat)
    (b : Buckets) (es : List Event) :
    g.rulings now b (.call m :: es) = g.rulings now (g.charge now m b).2 es := by
  rw [rulings, drawn?_of_key hk]

/-- A call of a method whose group has a rate limit is a ruling. -/
theorem rulings_call {g : RateGate} {m name : String} {l : Limiter} (hk : g.key m = some name)
    (hl : g.limiter? m = some l) (now : Nat) (b : Buckets) (es : List Event) :
    g.rulings now b (.call m :: es)
      = ⟨now, m, (b.find? name).getD (.fresh l now), (g.charge now m b).1.allowed⟩
        :: g.rulings now (g.charge now m b).2 es := by
  rw [rulings, drawn?_eq_some hk hl]

/-! ## Runs -/

/-- What became of a group's bucket in a call: it has kept its limiter, or it was made for the method. -/
theorem limiter_charge {g : RateGate} {m name : String} {l : Limiter} (hk : g.key m = some name)
    (hl : g.limiter? m = some l) (now : Nat) (b : Buckets) :
    ((g.charge now m b).2.find? name).map Bucket.limiter
      = some (((b.find? name).map Bucket.limiter).getD l) := by
  obtain ⟨-, hview, -⟩ := charge_spec hl now b
  rw [hk] at hview
  change (g.charge now m b).2.find? name = _ at hview
  rw [hview, Option.map_some, Bucket.limiter_take]
  change some ((b.find? name).getD _).limiter = _
  cases b.find? name with
  | none => rfl
  | some x => rfl

/-- The methods of some rulings that draw from the bucket under a key. -/
def sharing (g : RateGate) (k : Option String) (xs : List Ruling) : List String :=
  (xs.map Ruling.method).filter fun m => g.key m = k

/-- **One ruling of a run.** The bucket that decides a call has the limiter it had from the start, or
else that of the first method that drew from it. -/
theorem limiter_ruling {g : RateGate} (hall : ∀ m, ∃ l, g.limiter? m = some l) {now : Nat}
    {b : Buckets} {es : List Event} {before after : List Ruling} {x : Ruling} {name : String}
    (h : g.rulings now b es = before ++ x :: after) (hx : g.key x.method = some name) :
    some x.bucket.limiter = ((b.find? name).map Bucket.limiter).or
      ((g.sharing (some name) (before ++ [x])).head?.bind g.limiter?) := by
  induction es generalizing now b before with
  | nil => simp [rulings] at h
  | cons e es ih =>
    cases e with
    | wait nanos => exact ih h
    | call m =>
      obtain ⟨l, hl⟩ := hall m
      cases hk : g.key m with
      | none =>
        obtain ⟨-, -, hother⟩ := charge_spec hl now b
        have hsame : (g.charge now m b).2.find? name = b.find? name :=
          hother (some name) (by rw [hk]; simp)
        rw [rulings_call_of_key hk] at h
        rw [ih h, hsame]
      | some other =>
        rw [rulings_call hk hl] at h
        cases before with
        | nil =>
          obtain ⟨rfl, -⟩ := List.cons.inj h
          obtain rfl : other = name := Option.some.inj (hk.symm.trans hx)
          cases hf : b.find? other with
          | none => simp [sharing, hk, hl, Bucket.limiter_fresh]
          | some y => rfl
        | cons y before =>
          obtain ⟨rfl, hrest⟩ := List.cons.inj h
          rw [ih hrest]
          by_cases hname : other = name
          · subst hname
            rw [limiter_charge hk hl]
            cases hf : b.find? other with
            | none => simp [sharing, hk, hl]
            | some z => rfl
          · obtain ⟨-, -, hother⟩ := charge_spec hl now b
            have hsame : (g.charge now m b).2.find? name = b.find? name :=
              hother (some name) (by rw [hk]; simpa using Ne.symm hname)
            rw [hsame]
            simp [sharing, hk, hname]

/-- Every ruling is the answer of the bucket it names, and its method has a group with a rate limit. -/
theorem ruling_mem {g : RateGate} (hall : ∀ m, ∃ l, g.limiter? m = some l) {now : Nat}
    {b : Buckets} {es : List Event} :
    ∀ x ∈ g.rulings now b es, x.allowed = (x.bucket.take x.instant).1
      ∧ ∃ name, g.key x.method = some name := by
  induction es generalizing now b with
  | nil =>
    intro x hx
    cases hx
  | cons e es ih =>
    intro x hx
    cases e with
    | wait nanos => exact ih x hx
    | call m =>
      obtain ⟨l, hl⟩ := hall m
      cases hk : g.key m with
      | none =>
        rw [rulings_call_of_key hk] at hx
        exact ih x hx
      | some name =>
        rw [rulings_call hk hl] at hx
        rcases List.mem_cons.mp hx with rfl | hx
        · obtain ⟨hallowed, -, -⟩ := charge_spec hl now b
          rw [hk] at hallowed
          exact ⟨hallowed, name, hk⟩
        · exact ih x hx

/-! ## The main statement -/

/-- A bucket has the terms of the method that drew from it first. -/
theorem terms_ruling {global : Limiter} {resolver : Option Resolver} {g : RateGate}
    (hg : RateGate.of global resolver = .ok g) {now : Nat} {es : List Event}
    {before after : List Ruling} {x : Ruling}
    (h : g.rulings now (g.fresh now) es = before ++ x :: after) :
    ∃ first, (g.sharing (g.key x.method) (before ++ [x])).head? = some first
      ∧ g.terms? first = some x.bucket.limiter.terms := by
  have hall := exists_limiter? hg
  obtain ⟨-, name, hx⟩ := ruling_mem hall x (by rw [h]; simp)
  have hlimiter := limiter_ruling hall h hx
  have hempty : (g.fresh now).find? name = none := rfl
  rw [hempty, Option.map_none, Option.none_or] at hlimiter
  obtain ⟨first, hfirst, hl⟩ := Option.bind_eq_some_iff.mp hlimiter.symm
  have hshares := List.mem_of_head? hfirst
  have hk : g.key first = some name := by simpa [sharing] using (List.mem_filter.mp hshares).2
  exact ⟨first, by rw [hx]; exact hfirst, terms?_of_limiter? hk hl⟩

/-- A method that is called right after another of its key is held to the other's terms. -/
theorem terms_of_two_calls {g : RateGate} (hall : ∀ m, ∃ l, g.limiter? m = some l) {m m' : String}
    (hk : g.key m = g.key m')
    (hown : ∀ x ∈ g.rulings 0 (g.fresh 0) [.call m, .call m'],
      g.terms? x.method = some x.bucket.limiter.terms) : g.terms? m = g.terms? m' := by
  cases hm : g.key m with
  | none => rw [terms?_of_key hm, terms?_of_key (hk ▸ hm)]
  | some name =>
    have hm' : g.key m' = some name := hk ▸ hm
    obtain ⟨l, hl⟩ := hall m
    obtain ⟨l', hl'⟩ := hall m'
    rw [rulings_call hm hl, rulings_call hm' hl'] at hown
    have hsecond := hown _ (List.mem_cons_of_mem _ List.mem_cons_self)
    obtain ⟨y, hy, hlimiter⟩ := Option.map_eq_some_iff.mp (limiter_charge hm hl 0 (g.fresh 0))
    rw [hy] at hsecond
    change g.terms? m' = some y.limiter.terms at hsecond
    rw [hsecond, hlimiter, terms?_of_limiter? hm hl]
    rfl

/-- **Whose limit a method is held to.** In every run of an accepted gate, whatever its groups are named,
* a call that the bucket of a group decides is answered by a bucket with the terms of the first method
  that drew from it;
* methods are held to the terms of their own policies in every run exactly if methods of one key have
  policies of the same terms;
* they have if the groups with rate limits have names of their own. -/
theorem held_to_first {global : Limiter} {resolver : Option Resolver} {g : RateGate}
    (hg : RateGate.of global resolver = .ok g) :
    (∀ now es before x after, g.rulings now (g.fresh now) es = before ++ x :: after →
      x.allowed = (x.bucket.take x.instant).1
        ∧ ∃ first, (g.sharing (g.key x.method) (before ++ [x])).head? = some first
          ∧ g.terms? first = some x.bucket.limiter.terms)
    ∧ ((∀ now es, ∀ x ∈ g.rulings now (g.fresh now) es,
          g.terms? x.method = some x.bucket.limiter.terms)
        ↔ ∀ m m', g.key m = g.key m' → g.terms? m = g.terms? m')
    ∧ (DistinctNames resolver → ∀ m m', g.key m = g.key m' → g.terms? m = g.terms? m') := by
  have hall := exists_limiter? hg
  refine ⟨?_, ⟨?_, ?_⟩, ?_⟩
  · intro now es before x after h
    exact ⟨(ruling_mem hall x (by rw [h]; simp)).1, terms_ruling hg h⟩
  · intro hown m m' hk
    exact terms_of_two_calls hall hk (hown 0 _)
  · intro hterms now es x hx
    obtain ⟨before, after, h⟩ := List.append_of_mem hx
    obtain ⟨first, hfirst, heq⟩ := terms_ruling hg h
    have hshares := List.mem_of_head? hfirst
    have hk : g.key first = g.key x.method := by
      simpa [sharing] using (List.mem_filter.mp hshares).2
    rw [← hterms first x.method hk]
    exact heq
  · intro hd m m' hk
    have hres : g.resolver = resolver := by rw [(of_eq_ok hg).1]
    have hsame := DistinctNames.limiter?_eq (hres ▸ hd) hk
    cases hm : g.key m with
    | none => rw [terms?_of_key hm, terms?_of_key (hk ▸ hm)]
    | some name =>
      obtain ⟨l, hl⟩ := hall m
      rw [terms?_of_limiter? hm hl, terms?_of_limiter? (hk ▸ hm) (hsame ▸ hl)]

/-- Two groups of one name, of one request and of three requests a minute. A method of the second group
has its own terms if it is called first, and those of the first group after a call to that. -/
theorem held_to_another :
    let one : Policy := { rateLimit := some (.perMinute 1) }
    let three : Policy := { rateLimit := some (.perMinute 3) }
    let r : Resolver :=
      ⟨[⟨"a", [.exact "/a.A/One"], some one⟩, ⟨"a", [.exact "/a.A/Two"], some three⟩]⟩
    let global : Limiter := ⟨1.0, 2, 1000000000, by decide, by decide, by decide⟩
    let g : RateGate := ⟨global, some r⟩
    let seen (es : List Event) := (g.rulings 0 (g.fresh 0) es).map fun x =>
      (x.method, x.bucket.limiter.terms, x.allowed)
    RateGate.of global (some r) = .ok g
      ∧ r.resolve? "/a.A/Two" = some ("a", some three)
      ∧ g.terms? "/a.A/Two" = some ⟨3, 20000000000⟩
      ∧ seen [.call "/a.A/Two"] = [("/a.A/Two", ⟨3, 20000000000⟩, true)]
      ∧ seen [.call "/a.A/One", .call "/a.A/Two"]
        = [("/a.A/One", ⟨1, 60000000000⟩, true), ("/a.A/Two", ⟨1, 60000000000⟩, false)]
      ∧ ¬∀ x ∈ g.rulings 0 (g.fresh 0) [.call "/a.A/One", .call "/a.A/Two"],
          g.terms? x.method = some x.bucket.limiter.terms := by
  intro one three r global g seen
  refine ⟨rfl, ?_, ?_, ?_, ?_, ?_⟩
  all_goals decide +kernel +zetaReduce

/-- The two groups of one name again: some run holds a method to terms that are not its own. -/
theorem held_to_first_shared_names :
    let one : Policy := { rateLimit := some (.perMinute 1) }
    let three : Policy := { rateLimit := some (.perMinute 3) }
    let global : Limiter := ⟨1.0, 2, 1000000000, by decide, by decide, by decide⟩
    let g : RateGate := ⟨global,
      some ⟨[⟨"a", [.exact "/a.A/One"], some one⟩, ⟨"a", [.exact "/a.A/Two"], some three⟩]⟩⟩
    RateGate.of global g.resolver = .ok g
      ∧ ¬∀ now es, ∀ x ∈ g.rulings now (g.fresh now) es,
          g.terms? x.method = some x.bucket.limiter.terms := by
  intro one three global g
  have hg : RateGate.of global g.resolver = .ok g := rfl
  refine ⟨hg, ?_⟩
  intro hown
  have hterms := (held_to_first hg).2.1.mp hown "/a.A/One" "/a.A/Two" (by decide +kernel +zetaReduce)
  revert hterms
  decide +kernel +zetaReduce

end RateGate

end Turnstile
