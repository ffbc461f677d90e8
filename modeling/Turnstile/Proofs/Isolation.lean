import Turnstile.Proofs.Charge

/-!
# The buckets of a gate do not touch each other

What a gate answers to the calls of one key is what a single limiter answers that was set up with the
gate and sees no other calls. It does not show that the bucket of a group is opened late, nor what is
called besides.

* `RateGate.draws`: the calls of a run with their answers.
* `RateGate.Follows`: a bucket of the gate goes along with a limiter that stands alone.
* `RateGate.draws_isolated`: the calls of each key are answered as if there were no others.
-/

namespace Turnstile.RateGate

/-! ## Runs of a gate -/

/-- What happens at a gate: time passes, or a method is called. -/
inductive Event where
  | wait (nanos : Nat)
  | call (method : String)

/-- A call at a gate and its answer. -/
structure Draw where
  instant : Nat
  method : String
  allowed : Bool

/-- The calls of a run with their answers, from an instant and some buckets on. -/
def draws (g : RateGate) (now : Nat) (b : Buckets) : List Event → List Draw
  | [] => []
  | .wait nanos :: es => g.draws (now + nanos) b es
  | .call m :: es => ⟨now, m, (g.charge now m b).1.allowed⟩ :: g.draws now (g.charge now m b).2 es

/-- The draws from the bucket under a key. -/
def drawsAt (g : RateGate) (k : Option String) (ds : List Draw) : List Draw :=
  ds.filter fun d => g.key d.method = k

/-- The answers of some draws. -/
def answers (ds : List Draw) : List Bool := ds.map Draw.allowed

/-- The instants of some draws. -/
def instants (ds : List Draw) : List Nat := ds.map Draw.instant

/-- Buckets in which the limiter of every group has been set up at an instant. -/
def stocked (g : RateGate) (now : Nat) : Buckets :=
  { global := .fresh g.global now
    groups := (groupsOf g.resolver).filterMap fun group =>
      group.rateLimit.bind fun r =>
        (Limiter.ofRateLimit r).toOption.map fun l => (group.name, .fresh l now) }

/-! ## A limiter that stands alone -/

/-- The bucket under a key goes along with a limiter that stands alone: both are due at the same
instant. A bucket that has not been opened goes along with a limiter that has not been drawn from. -/
structure Follows (now : Nat) (b : Buckets) (k : Option String) (alone : Bucket) : Prop where
  opened : alone.opened ≤ now
  alike : ∀ x, b.view k = some x → x.Alike alone ∧ x.opened ≤ now
  untouched : b.view k = none → alone.due? = none

namespace Follows

variable {g : RateGate} {now : Nat} {b : Buckets} {k : Option String} {alone : Bucket}

theorem later (h : Follows now b k alone) (nanos : Nat) : Follows (now + nanos) b k alone := by
  refine ⟨Nat.le_add_right_of_le h.opened, ?_, h.untouched⟩
  intro x hx
  obtain ⟨ha, ho⟩ := h.alike x hx
  exact ⟨ha, Nat.le_add_right_of_le ho⟩

/-- What a call draws from is due when the limiter that stands alone is. -/
theorem alike_drawn (h : Follows now b k alone) :
    ((b.view k).getD (.fresh alone.limiter now)).Alike alone
      ∧ ((b.view k).getD (.fresh alone.limiter now)).opened ≤ now := by
  cases hv : b.view k with
  | none => exact ⟨⟨rfl, (h.untouched hv).symm⟩, Nat.le_refl now⟩
  | some x => exact h.alike x hv

/-- A call of the key is answered as the limiter that stands alone answers, and the two go along
still. -/
theorem call (h : Follows now b k alone) {m : String} (hk : g.key m = k)
    (hl : g.limiter? m = some alone.limiter) :
    (g.charge now m b).1.allowed = (alone.take now).1
      ∧ Follows now (g.charge now m b).2 k (alone.take now).2 := by
  subst hk
  obtain ⟨hallowed, hview, -⟩ := charge_spec hl now b
  obtain ⟨hd, ho⟩ := h.alike_drawn
  obtain ⟨hfst, hsnd⟩ := hd.take ho h.opened
  refine ⟨hallowed.trans hfst, by rw [Bucket.opened_take]; exact h.opened, ?_, ?_⟩
  · intro x hx
    rw [hview] at hx
    obtain rfl := Option.some.inj hx
    exact ⟨hsnd, by rw [Bucket.opened_take]; exact ho⟩
  · intro hn
    rw [hview] at hn
    cases hn

/-- A call of another key changes nothing between them. -/
theorem call_other (h : Follows now b k alone) {m : String} {l : Limiter} (hk : g.key m ≠ k)
    (hl : g.limiter? m = some l) : Follows now (g.charge now m b).2 k alone := by
  obtain ⟨-, -, hother⟩ := charge_spec hl now b
  have hv := hother k (Ne.symm hk)
  exact ⟨h.opened, fun x hx => h.alike x (hv ▸ hx), fun hn => h.untouched (hv ▸ hn)⟩

/-- **A run.** The draws of a key are answered as the limiter that stands alone answers them. -/
theorem answers_eq (h : Follows now b k alone) (hall : ∀ m, ∃ l, g.limiter? m = some l)
    (hk : ∀ m, g.key m = k → g.limiter? m = some alone.limiter) (es : List Event) :
    answers (g.drawsAt k (g.draws now b es))
      = alone.answers (instants (g.drawsAt k (g.draws now b es))) := by
  induction es generalizing now b alone with
  | nil => rfl
  | cons e es ih =>
    cases e with
    | wait nanos => exact ih (h.later nanos) hk
    | call m =>
      by_cases hm : g.key m = k
      · obtain ⟨hfst, hnext⟩ := h.call hm (hk m hm)
        have hrest := ih hnext (fun m' hm' => by rw [Bucket.limiter_take]; exact hk m' hm')
        simp only [draws, drawsAt, answers, instants] at hrest ⊢
        rw [List.filter_cons_of_pos (by simpa using hm)]
        simp only [List.map_cons, Bucket.answers_cons]
        rw [hfst, hrest]
      · obtain ⟨l, hl⟩ := hall m
        have hrest := ih (h.call_other hm hl) hk
        simp only [draws, drawsAt, answers, instants] at hrest ⊢
        rw [List.filter_cons_of_neg (by simpa using hm)]
        exact hrest

end Follows

/-- A gate that was just built goes along with limiters that are set up with it. -/
theorem follows_fresh {g : RateGate} {m : String} {l : Limiter} (hl : g.limiter? m = some l)
    (now : Nat) : Follows now (g.fresh now) (g.key m) (.fresh l now) := by
  refine ⟨Nat.le_refl now, ?_, fun _ => rfl⟩
  intro x hx
  cases hr : g.limit? m with
  | none =>
    have hk : g.key m = none := by rw [key, hr]; rfl
    have hg : g.global = l := by rw [limiter?, hr] at hl; exact Option.some.inj hl
    rw [hk] at hx
    obtain rfl := Option.some.inj hx
    exact ⟨⟨hg, rfl⟩, Nat.le_refl now⟩
  | some limit =>
    have hk : g.key m = some limit.1 := by rw [key, hr]; rfl
    rw [hk] at hx
    cases hx

/-! ## Opening buckets early -/

theorem lookup_eq_some {β : Type} {es : List (String × β)} {name : String} {v : β}
    (hmem : ∃ e ∈ es, e.1 = name) (hval : ∀ e ∈ es, e.1 = name → e.2 = v) :
    es.lookup name = some v := by
  induction es with
  | nil =>
    obtain ⟨e, he, -⟩ := hmem
    cases he
  | cons e es ih =>
    rw [List.lookup_cons]
    by_cases hn : name = e.1
    · rw [hn, beq_self_eq_true, hval e List.mem_cons_self hn.symm]
    · rw [beq_eq_false_iff_ne.mpr hn]
      obtain ⟨e', he', hn'⟩ := hmem
      rcases List.mem_cons.mp he' with rfl | ht
      · exact absurd hn'.symm hn
      · exact ih ⟨e', ht, hn'⟩ fun x hx => hval x (List.mem_cons_of_mem e hx)

/-- The buckets of a gate that was stocked when it was built. -/
theorem view_stocked {global : Limiter} {resolver : Option Resolver} {g : RateGate}
    (hg : RateGate.of global resolver = .ok g) (hd : DistinctNames resolver) {m : String}
    {l : Limiter} (hl : g.limiter? m = some l) (now : Nat) :
    (g.stocked now).view (g.key m) = some (.fresh l now) := by
  obtain ⟨rfl, hall⟩ := of_eq_ok hg
  cases hr : limit? ⟨global, resolver⟩ m with
  | none =>
    rw [key, hr]
    rw [limiter?, hr] at hl
    rw [← Option.some.inj hl]
    rfl
  | some limit =>
    obtain ⟨name, r⟩ := limit
    have hok := ofRateLimit_eq_ok hr hl
    obtain ⟨x, hx, rfl, hxr⟩ := exists_group_of_limit? hr
    rw [key, hr]
    change List.lookup x.name _ = _
    refine lookup_eq_some ⟨(x.name, .fresh l now), ?_, rfl⟩ ?_
    · refine List.mem_filterMap.mpr ⟨x, hx, ?_⟩
      rw [hxr]
      simp [hok, Except.toOption]
    · intro e he hn
      obtain ⟨y, hy, he⟩ := List.mem_filterMap.mp he
      obtain ⟨r', hyr, he⟩ := Option.bind_eq_some_iff.mp he
      obtain ⟨l', hl', rfl⟩ := Option.map_eq_some_iff.mp he
      have hxy := hd.eq_of_name_eq hx hy (by simp [hxr]) (by simp [hyr]) hn.symm
      rw [hxy, hyr] at hxr
      obtain rfl := Option.some.inj hxr
      rw [hok] at hl'
      obtain rfl := Option.some.inj hl'
      rfl

/-- Draws that are answered alike at every key are the same, if the calls are. -/
theorem eq_of_answers_eq {g : RateGate} {ds ds' : List Draw}
    (hc : ds.map (fun d => (d.instant, d.method)) = ds'.map (fun d => (d.instant, d.method)))
    (ha : ∀ m, answers (g.drawsAt (g.key m) ds) = answers (g.drawsAt (g.key m) ds')) :
    ds = ds' := by
  induction ds generalizing ds' with
  | nil => exact (List.map_eq_nil_iff.mp hc.symm).symm
  | cons d ds ih =>
    cases ds' with
    | nil => cases hc
    | cons d' ds' =>
      obtain ⟨hd, hds⟩ := List.cons.inj hc
      obtain ⟨hi, hm⟩ := Prod.mk.inj hd
      have hhead := ha d.method
      simp only [answers, drawsAt] at hhead
      rw [List.filter_cons_of_pos (by simp), List.filter_cons_of_pos (by simp [hm])] at hhead
      have hallowed : d.allowed = d'.allowed := (List.cons.inj hhead).1
      have hdd : d = d' := by
        cases d
        cases d'
        simp_all
      subst hdd
      refine congrArg (d :: ·) (ih hds ?_)
      intro m
      have hm' := ha m
      simp only [answers, drawsAt, List.filter_cons] at hm' ⊢
      split at hm'
      · exact (List.cons.inj hm').2
      · exact hm'

/-- When which methods are called does not depend on the buckets. -/
theorem calls_eq (g : RateGate) (now : Nat) (b b' : Buckets) (es : List Event) :
    (g.draws now b es).map (fun d => (d.instant, d.method))
      = (g.draws now b' es).map (fun d => (d.instant, d.method)) := by
  induction es generalizing now b b' with
  | nil => rfl
  | cons e es ih =>
    cases e with
    | wait nanos => exact ih (now + nanos) b b'
    | call m =>
      simp only [draws, List.map_cons]
      rw [ih]

theorem instants_drawsAt (g : RateGate) (k : Option String) (ds : List Draw) :
    instants (g.drawsAt k ds)
      = ((ds.map fun d => (d.instant, d.method)).filter fun c => g.key c.2 = k).map Prod.fst := by
  rw [List.filter_map, List.map_map]
  rfl

/-! ## Calls of other keys -/

/-- Whether an event is not a call of a key. -/
def spares (g : RateGate) (k : Option String) : Event → Bool
  | .wait _ => true
  | .call m => g.key m ≠ k

/-- A call is answered alike, and leaves buckets alike, where its own bucket is the same. -/
theorem charge_congr {g : RateGate} {m : String} {l : Limiter} (hl : g.limiter? m = some l)
    (now : Nat) {b b' : Buckets} (hv : b.view (g.key m) = b'.view (g.key m)) :
    (g.charge now m b).1.allowed = (g.charge now m b').1.allowed
      ∧ (g.charge now m b).2.view (g.key m) = (g.charge now m b').2.view (g.key m) := by
  obtain ⟨ha, hw, -⟩ := charge_spec hl now b
  obtain ⟨ha', hw', -⟩ := charge_spec hl now b'
  rw [ha, ha', hw, hw', hv]
  exact ⟨rfl, rfl⟩

/-- Without the calls of one key, all others are answered as with them. -/
theorem draws_spared {g : RateGate} (hall : ∀ m, ∃ l, g.limiter? m = some l) (k : Option String)
    (now : Nat) {b b' : Buckets} (hv : ∀ k', k' ≠ k → b.view k' = b'.view k') (es : List Event) :
    g.draws now b' (es.filter (g.spares k))
      = (g.draws now b es).filter fun d => g.key d.method ≠ k := by
  induction es generalizing now b b' with
  | nil => rfl
  | cons e es ih =>
    cases e with
    | wait nanos => exact ih (now + nanos) hv
    | call m =>
      obtain ⟨l, hl⟩ := hall m
      obtain ⟨-, -, hother⟩ := charge_spec hl now b
      by_cases hm : g.key m = k
      · rw [List.filter_cons_of_neg (by simpa [spares] using hm)]
        simp only [draws]
        rw [List.filter_cons_of_neg (by simpa using hm)]
        exact ih now fun k' hk' => (hother k' (hm ▸ hk')).trans (hv k' hk')
      · rw [List.filter_cons_of_pos (by simpa [spares] using hm)]
        simp only [draws]
        rw [List.filter_cons_of_pos (by simpa using hm)]
        obtain ⟨ha, hw⟩ := charge_congr hl now (hv _ hm)
        obtain ⟨-, -, hother'⟩ := charge_spec hl now b'
        rw [ha, ih now fun k' hk' => ?_]
        by_cases hkm : k' = g.key m
        · rw [hkm, hw]
        · rw [hother k' hkm, hother' k' hkm, hv k' hk']

/-- Buckets that show the same under every key are drawn from alike. -/
theorem draws_congr {g : RateGate} (hall : ∀ m, ∃ l, g.limiter? m = some l) (now : Nat)
    {b b' : Buckets} (hv : ∀ k, b.view k = b'.view k) (es : List Event) :
    g.draws now b es = g.draws now b' es := by
  induction es generalizing now b b' with
  | nil => rfl
  | cons e es ih =>
    cases e with
    | wait nanos => exact ih (now + nanos) hv
    | call m =>
      obtain ⟨l, hl⟩ := hall m
      obtain ⟨ha, hw⟩ := charge_congr hl now (hv _)
      obtain ⟨-, -, hother⟩ := charge_spec hl now b
      obtain ⟨-, -, hother'⟩ := charge_spec hl now b'
      simp only [draws]
      rw [ha, ih now fun k => ?_]
      by_cases hk : k = g.key m
      · rw [hk, hw]
      · rw [hother k hk, hother' k hk, hv k]

/-- Two calls of different keys, one right after the other, can be swapped. -/
theorem draws_swap {g : RateGate} (hall : ∀ m, ∃ l, g.limiter? m = some l) {m m' : String}
    (hm : g.key m ≠ g.key m') (now : Nat) (b : Buckets) (pre post : List Event) :
    ∃ before d d' after, d.method = m ∧ d'.method = m'
      ∧ g.draws now b (pre ++ .call m :: .call m' :: post) = before ++ d :: d' :: after
      ∧ g.draws now b (pre ++ .call m' :: .call m :: post) = before ++ d' :: d :: after := by
  induction pre generalizing now b with
  | nil =>
    obtain ⟨l, hl⟩ := hall m
    obtain ⟨l', hl'⟩ := hall m'
    obtain ⟨-, hw, ho⟩ := charge_spec hl now b
    obtain ⟨-, hw', ho'⟩ := charge_spec hl' now b
    -- each of the two finds its bucket as if the other had not been
    obtain ⟨ha, hv⟩ := charge_congr hl now (ho' _ hm)
    obtain ⟨ha', hv'⟩ := charge_congr hl' now (ho _ (Ne.symm hm))
    obtain ⟨-, -, hs⟩ := charge_spec hl now (g.charge now m' b).2
    obtain ⟨-, -, hs'⟩ := charge_spec hl' now (g.charge now m b).2
    refine ⟨[], _, _, _, rfl, rfl, rfl, ?_⟩
    simp only [draws, List.nil_append]
    rw [← ha, ← ha', draws_congr hall now fun k => ?_]
    by_cases hk : k = g.key m
    · rw [hk, hv, hs' _ hm]
    · by_cases hk' : k = g.key m'
      · rw [hk', hv', hs _ (Ne.symm hm)]
      · rw [hs k hk, ho' k hk', hs' k hk', ho k hk]
  | cons e pre ih =>
    cases e with
    | wait nanos => exact ih (now + nanos) b
    | call c =>
      obtain ⟨before, d, d', after, hd, hd', h, h'⟩ := ih now (g.charge now c b).2
      refine ⟨⟨now, c, (g.charge now c b).1.allowed⟩ :: before, d, d', after, hd, hd', ?_, ?_⟩
      · simp only [List.cons_append, draws]
        rw [h]
      · simp only [List.cons_append, draws]
        rw [h']

/-! ## The main statement -/

/-- A gate that was stocked goes along with limiters that are set up with it. -/
theorem follows_stocked {global : Limiter} {resolver : Option Resolver} {g : RateGate}
    (hg : RateGate.of global resolver = .ok g) (hd : DistinctNames resolver) {m : String}
    {l : Limiter} (hl : g.limiter? m = some l) (now : Nat) :
    Follows now (g.stocked now) (g.key m) (.fresh l now) := by
  have hv := view_stocked hg hd hl now
  refine ⟨Nat.le_refl now, ?_, ?_⟩
  · intro x hx
    rw [hv] at hx
    obtain rfl := Option.some.inj hx
    exact ⟨⟨rfl, rfl⟩, Nat.le_refl now⟩
  · intro hn
    rw [hv] at hn
    cases hn

/-- **The buckets of a gate do not touch each other.** In every run of an accepted gate whose limited
groups have names of their own,
* the calls of each key are answered as by the limiter of that key, set up with the gate, if it sees
  only them, at the instants at which they come;
* it makes no difference whether the buckets of groups are opened at once or when they are needed;
* leaving out the calls of one key changes no answer to another;
* two adjacent calls of different keys can be swapped. -/
theorem draws_isolated {global : Limiter} {resolver : Option Resolver} {g : RateGate}
    (hg : RateGate.of global resolver = .ok g) (hd : DistinctNames resolver) (now : Nat)
    (es : List Event) :
    (∀ m, ∃ l, g.limiter? m = some l
      ∧ answers (g.drawsAt (g.key m) (g.draws now (g.fresh now) es))
        = (Bucket.fresh l now).answers
            (instants (g.drawsAt (g.key m) (g.draws now (g.fresh now) es))))
    ∧ g.draws now (g.stocked now) es = g.draws now (g.fresh now) es
    ∧ (∀ k, g.draws now (g.fresh now) (es.filter (g.spares k))
        = (g.draws now (g.fresh now) es).filter fun d => g.key d.method ≠ k)
    ∧ ∀ m m' pre post, g.key m ≠ g.key m' →
        ∃ before d d' after, d.method = m ∧ d'.method = m'
          ∧ g.draws now (g.fresh now) (pre ++ .call m :: .call m' :: post)
            = before ++ d :: d' :: after
          ∧ g.draws now (g.fresh now) (pre ++ .call m' :: .call m :: post)
            = before ++ d' :: d :: after := by
  have hall := exists_limiter? hg
  have hres : g.resolver = resolver := by rw [(of_eq_ok hg).1]
  have hkeys : ∀ m l, g.limiter? m = some l → ∀ m', g.key m' = g.key m →
      g.limiter? m' = some (Bucket.fresh l now).limiter := by
    intro m l hl m' hm
    rw [Bucket.limiter_fresh, ← hl]
    exact DistinctNames.limiter?_eq (hres ▸ hd) hm
  refine ⟨?_, ?_, ?_, ?_⟩
  · intro m
    obtain ⟨l, hl⟩ := hall m
    exact ⟨l, hl, (follows_fresh hl now).answers_eq hall (hkeys m l hl) es⟩
  · refine eq_of_answers_eq (g := g) (calls_eq g now _ _ es) ?_
    intro m
    obtain ⟨l, hl⟩ := hall m
    have hcalls : instants (g.drawsAt (g.key m) (g.draws now (g.stocked now) es))
        = instants (g.drawsAt (g.key m) (g.draws now (g.fresh now) es)) := by
      rw [instants_drawsAt, instants_drawsAt, calls_eq g now (g.stocked now) (g.fresh now)]
    rw [(follows_stocked hg hd hl now).answers_eq hall (hkeys m l hl) es,
      (follows_fresh hl now).answers_eq hall (hkeys m l hl) es, hcalls]
  · intro k
    exact draws_spared hall k now (fun _ _ => rfl) es
  · intro m m' pre post hm
    exact draws_swap hall hm now _ pre post

/-- A group of one request a minute beside a group without a limit: the second request to the first
group is refused and the third, a minute after the first, is not, whatever the others take. -/
theorem draws_isolated_two_groups :
    let policy : Policy := { rateLimit := some (.perMinute 1) }
    let r : Resolver :=
      ⟨[⟨"admin", [.beginning "/admin."], some policy⟩, ⟨"bare", [.beginning "/bare."], none⟩]⟩
    let global : Limiter := ⟨1.0, 2, 1000000000, by decide, by decide, by decide⟩
    let g : RateGate := ⟨global, some r⟩
    let es : List Event := [.wait 5, .call "/bare.S/A", .call "/admin.S/A", .call "/other.S/A",
      .call "/bare.S/A", .wait 1000000000, .call "/admin.S/A", .call "/other.S/A",
      .wait 59000000000, .call "/admin.S/A"]
    RateGate.of global (some r) = .ok g ∧ DistinctNames (some r)
      ∧ (∃ l, g.limiter? "/admin.S/A" = some l
        ∧ answers (g.drawsAt (g.key "/admin.S/A") (g.draws 0 (g.fresh 0) es))
          = (Bucket.fresh l 0).answers
              (instants (g.drawsAt (g.key "/admin.S/A") (g.draws 0 (g.fresh 0) es))))
      ∧ g.draws 0 (g.stocked 0) es = g.draws 0 (g.fresh 0) es
      ∧ answers (g.drawsAt (g.key "/admin.S/A") (g.draws 0 (g.fresh 0) es)) = [true, false, true] := by
  intro policy r global g es
  have hg : RateGate.of global (some r) = .ok g := rfl
  have hd : DistinctNames (some r) := by decide
  have h := draws_isolated hg hd 0 es
  exact ⟨hg, hd, h.1 "/admin.S/A", h.2.1, by decide +kernel⟩

end Turnstile.RateGate
