import Turnstile.Proofs.Admission

/-!
# One network, several spellings

A network may be written with any address that it holds, so entries that differ behind the leading bits
mean the same. They are read to networks that are the same, and these are stored as such, so that two
configurations decide alike if they differ in nothing but this. Only whether an entry stands is another
matter: a network that is written with a mapped address has to be so long that it holds no others, and
one that is shorter stands if it is written with another of its addresses.

* `AdmissionConfig.Rewritten`: configurations whose entries are related one by one.
* `Admission.Alike`: what is read from such configurations; `Admission.Alike.evaluate_eq`, that it decides
  alike.
* `AdmissionConfig.Swapped`: one entry in the place of another.
* `Admission.spelling_immaterial`: what the choice between two spellings of a network decides.
-/

namespace Turnstile

/-! ## Admissions that decide alike -/

/-- Two admissions with one mode and one list of headers, and with networks that are the same. -/
structure Admission.Alike (a a' : Admission) : Prop where
  mode : a.mode = a'.mode
  cidrs : List.Forall₂ Network.Same a.cidrs a'.cidrs
  proxies : List.Forall₂ Network.Same a.client.trustedProxies a'.client.trustedProxies
  headers : a.client.headers = a'.client.headers

namespace Admission.Alike

variable {a a' : Admission}

theorem admits_eq (h : Alike a a') (x : Address) : a.admits x = a'.admits x := by
  unfold admits
  rw [h.mode, Network.anyContains_congr h.cidrs]

/-- Clients with one canonical address, whose headers tell the same, are at the same address. -/
theorem resolve?_eq (h : Alike a a') {e e' : Endpoint} {m m' : Metadata}
    (he : e.address.canonical = e'.address.canonical)
    (hm : a.client.fromHeaders? m = a.client.fromHeaders? m') :
    a.client.resolve? (some e) m = a'.client.resolve? (some e') m' := by
  have htrusts : a.client.trusts e'.address.canonical = a'.client.trusts e'.address.canonical :=
    Network.anyContains_congr h.proxies _
  have htold : a.client.fromHeaders? m' = a'.client.fromHeaders? m' := by
    unfold ClientAddress.fromHeaders?
    rw [h.headers]
  simp only [ClientAddress.resolve?]
  rw [he, hm, htold, htrusts]

/-- **Alike admissions decide alike** about clients that are at the same address. -/
theorem evaluate_eq (h : Alike a a') {e e' : Endpoint} {m m' : Metadata}
    (he : e.address.canonical = e'.address.canonical)
    (hm : a.client.fromHeaders? m = a.client.fromHeaders? m') :
    a.evaluate (some e) m = a'.evaluate (some e') m' := by
  obtain ⟨x, hx⟩ := a.client.exists_resolve? e m
  rw [evaluate_of_resolve? hx, evaluate_of_resolve? ((h.resolve?_eq he hm).symm.trans hx), h.admits_eq]

end Admission.Alike

/-! ## Configurations entry by entry -/

/-- Two configurations whose entries are related one by one. -/
structure AdmissionConfig.Rewritten (R : String → String → Prop) (c c' : AdmissionConfig) : Prop where
  mode : c.mode = c'.mode
  cidrs : List.Forall₂ R c.cidrs c'.cidrs
  proxies : List.Forall₂ R c.trustedProxies c'.trustedProxies
  headers : c.headerPriority = c'.headerPriority

/-- Entries of which both or neither stand. -/
theorem Network.exists_stored_congr {R : String → String → Prop} {es es' : List String}
    (hR : ∀ e e', R e e' → ((∃ n, ofEntry? e = .ok n) ↔ ∃ n, ofEntry? e' = .ok n))
    (h : List.Forall₂ R es es') : (∃ ns, Stored es ns) ↔ ∃ ns, Stored es' ns := by
  simp only [exists_stored_iff]
  induction h with
  | nil => simp
  | cons he _ ih => simp only [List.forall_mem_cons, ih, hR _ _ he]

/-- Entries that are stored as networks which are the same. -/
theorem Network.stored_same {R : String → String → Prop} {es es' : List String}
    (hR : ∀ e e', R e e' → ∀ n n', ofEntry? e = .ok n → ofEntry? e' = .ok n' → n.Same n')
    (h : List.Forall₂ R es es') {ns ns' : List Network} (hns : Stored es ns) (hns' : Stored es' ns') :
    List.Forall₂ Same ns ns' := by
  unfold Stored at hns hns'
  induction h generalizing ns ns' with
  | nil =>
    cases hns
    cases hns'
    exact .nil
  | cons he _ ih =>
    cases hns with
    | cons hn hns =>
      cases hns' with
      | cons hn' hns' => exact .cons (hR _ _ he _ _ hn hn') (ih hns hns')

namespace AdmissionConfig.Rewritten

variable {R : String → String → Prop} {c c' : AdmissionConfig}

/-- Both configurations stand or neither does. -/
theorem exists_of_iff (h : c.Rewritten R c')
    (hR : ∀ e e', R e e' →
      ((∃ n, Network.ofEntry? e = .ok n) ↔ ∃ n, Network.ofEntry? e' = .ok n)) :
    (∃ a, Admission.of c = .ok a) ↔ ∃ a, Admission.of c' = .ok a := by
  simp only [Admission.exists_of_iff, List.mem_append, or_imp, forall_and, ← Network.exists_stored_iff]
  rw [Network.exists_stored_congr hR h.cidrs, Network.exists_stored_congr hR h.proxies]

/-- What is read from them is alike. -/
theorem alike (h : c.Rewritten R c')
    (hR : ∀ e e', R e e' →
      ∀ n n', Network.ofEntry? e = .ok n → Network.ofEntry? e' = .ok n' → n.Same n')
    {a a' : Admission} (ha : Admission.of c = .ok a) (ha' : Admission.of c' = .ok a') : a.Alike a' := by
  have hreads := Admission.of_eq_ok_iff.mp ha
  have hreads' := Admission.of_eq_ok_iff.mp ha'
  refine ⟨?_, Network.stored_same hR h.cidrs hreads.cidrs hreads'.cidrs,
    Network.stored_same hR h.proxies hreads.proxies hreads'.proxies, ?_⟩
  · rw [hreads.mode, hreads'.mode, h.mode]
  · rw [hreads.headers, hreads'.headers, AdmissionConfig.asked, AdmissionConfig.asked, h.headers]

end AdmissionConfig.Rewritten

/-! ## Entries that mean the same network -/

namespace Network

/-- An entry stands if it is a network and not a short mapped one. -/
theorem exists_ofEntry?_iff (entry : String) :
    (∃ n, ofEntry? entry = .ok n) ↔ ∃ x, read? (Text.trim entry) = some x ∧ ¬x.ShortMapped := by
  unfold ofEntry?
  cases read? (Text.trim entry) with
  | none => simp
  | some x => simp [← exists_canonical?_iff]

/-- What an entry is stored as. -/
theorem ofEntry?_of_read? {entry : String} {x : Network} (h : read? (Text.trim entry) = some x) :
    ofEntry? entry = x.canonical? := by
  unfold ofEntry?
  rw [h]

/-- Two entries for networks that are the same. -/
structure SameEntry (entry entry' : String) (x y : Network) : Prop where
  left : read? (Text.trim entry) = some x
  right : read? (Text.trim entry') = some y
  same : x.Same y

end Network

/-- The second configuration has one entry in the place of another, among the networks or among the
trusted proxies. -/
inductive AdmissionConfig.Swapped (entry entry' : String) : AdmissionConfig → AdmissionConfig → Prop
  | cidr (c : AdmissionConfig) (before after : List String) :
      Swapped entry entry' { c with cidrs := before ++ entry :: after }
        { c with cidrs := before ++ entry' :: after }
  | proxy (c : AdmissionConfig) (before after : List String) :
      Swapped entry entry' { c with trustedProxies := before ++ entry :: after }
        { c with trustedProxies := before ++ entry' :: after }

namespace AdmissionConfig.Swapped

variable {entry entry' : String} {c c' : AdmissionConfig}

/-- All other entries are the same. -/
theorem rewritten (h : Swapped entry entry' c c') :
    c.Rewritten (fun e e' => e = e' ∨ (e = entry ∧ e' = entry')) c' := by
  have hsame : ∀ es : List String,
      List.Forall₂ (fun e e' => e = e' ∨ (e = entry ∧ e' = entry')) es es :=
    fun es => List.forall₂_same.mpr fun e _ => .inl rfl
  have hplace : ∀ before after : List String,
      List.Forall₂ (fun e e' => e = e' ∨ (e = entry ∧ e' = entry')) (before ++ entry :: after)
        (before ++ entry' :: after) :=
    fun before after => List.rel_append (hsame before) (.cons (.inr ⟨rfl, rfl⟩) (hsame after))
  cases h with
  | cidr c before after => exact ⟨rfl, hplace before after, hsame _, rfl⟩
  | proxy c before after => exact ⟨rfl, hsame _, hplace before after, rfl⟩

/-- The entry is one of the first configuration's. -/
theorem mem (h : Swapped entry entry' c c') : entry ∈ c.cidrs ++ c.trustedProxies := by
  cases h <;> simp

theorem symm (h : Swapped entry entry' c c') : Swapped entry' entry c' c := by
  cases h with
  | cidr c before after => exact .cidr c before after
  | proxy c before after => exact .proxy c before after

/-- A configuration with an entry for a short mapped network does not stand. -/
theorem refused (h : Swapped entry entry' c c') {x : Network}
    (hx : Network.read? (Text.trim entry) = some x) (hshort : x.ShortMapped) :
    ¬∃ a, Admission.of c = .ok a := by
  rw [Admission.exists_of_iff]
  intro hall
  obtain ⟨n, hn⟩ := hall entry h.mem
  rw [Network.ofEntry?_of_read? hx, Network.canonical?_of_shortMapped hshort] at hn
  cases hn

end AdmissionConfig.Swapped

/-! ## The main statement -/

namespace Admission

/-- **A network may be written with any of its addresses**, as far as the configuration stands. Let two
entries be for networks of one family and one length whose addresses agree on the leading bits, and put
the one or the other at a place of a configuration:
* where the configuration stands with both, the two decide alike about every client;
* it stands with both or with neither, unless just one of the two is written with a mapped address and is
  shorter than a mapped network may be;
* with an entry that is, it does not stand. -/
theorem spelling_immaterial {entry entry' : String} {x y : Network} {c c' : AdmissionConfig}
    (h : Network.SameEntry entry entry' x y) (hc : AdmissionConfig.Swapped entry entry' c c') :
    (∀ a a', of c = .ok a → of c' = .ok a' → ∀ peer m, a.evaluate peer m = a'.evaluate peer m)
    ∧ ((x.ShortMapped ↔ y.ShortMapped) → ((∃ a, of c = .ok a) ↔ ∃ a', of c' = .ok a'))
    ∧ (x.ShortMapped → ¬∃ a, of c = .ok a)
    ∧ (y.ShortMapped → ¬∃ a', of c' = .ok a') := by
  refine ⟨?_, ?_, hc.refused h.left, hc.symm.refused h.right⟩
  · intro a a' ha ha' peer m
    have halike : a.Alike a' := by
      refine hc.rewritten.alike ?_ ha ha'
      rintro e e' (rfl | ⟨rfl, rfl⟩) n n' hn hn'
      · obtain rfl := Except.ok.inj (hn.symm.trans hn')
        exact .refl n
      · rw [Network.ofEntry?_of_read? h.left] at hn
        rw [Network.ofEntry?_of_read? h.right] at hn'
        exact h.same.canonical? hn hn'
    cases peer with
    | none => rfl
    | some e => exact halike.evaluate_eq rfl rfl
  · intro hshort
    refine hc.rewritten.exists_of_iff ?_
    rintro e e' (rfl | ⟨rfl, rfl⟩)
    · exact Iff.rfl
    · simp only [Network.exists_ofEntry?_iff, h.left, h.right, Option.some.injEq, exists_eq_left',
        hshort]

/-- A trusted proxy's network, written as a mapped one with two of its addresses. -/
theorem spelling_immaterial_host_bits :
    let c (proxy : String) : AdmissionConfig :=
      { mode := .denyList, cidrs := ["203.0.113.0/24"],
        trustedProxies := ["2001:db8::/32"] ++ proxy :: ["192.0.2.1"] }
    let x : Network := .v6 (Address.mapped 0x0a000000) 104
    let y : Network := .v6 (Address.mapped 0x0a010203) 104
    Network.SameEntry "::ffff:10.0.0.0/104" " ::ffff:10.1.2.3/104" x y
    ∧ ((∃ a, of (c "::ffff:10.0.0.0/104") = .ok a)
        ↔ ∃ a', of (c " ::ffff:10.1.2.3/104") = .ok a')
    ∧ ∃ a a', of (c "::ffff:10.0.0.0/104") = .ok a ∧ of (c " ::ffff:10.1.2.3/104") = .ok a'
        ∧ ∀ peer m, a.evaluate peer m = a'.evaluate peer m := by
  intro c x y
  have hentry : Network.SameEntry "::ffff:10.0.0.0/104" " ::ffff:10.1.2.3/104" x y :=
    ⟨by decide +kernel, by decide +kernel,
      .v6 ((Network.agree_iff_div_eq (by decide) _ _).mpr (by decide +kernel))⟩
  have hlong : ¬x.ShortMapped := fun h => absurd h.1 (by decide)
  have hlong' : ¬y.ShortMapped := fun h => absurd h.1 (by decide)
  obtain ⟨hdecide, hstand, -, -⟩ := spelling_immaterial hentry
    (.proxy { mode := .denyList, cidrs := ["203.0.113.0/24"] } ["2001:db8::/32"] ["192.0.2.1"])
  have hboth := hstand ⟨fun h => absurd h hlong, fun h => absurd h hlong'⟩
  have hsome : (of (c "::ffff:10.0.0.0/104")).toOption.isSome := by decide +kernel
  cases ha : of (c "::ffff:10.0.0.0/104") with
  | error e =>
    rw [ha] at hsome
    cases hsome
  | ok a =>
    obtain ⟨a', ha'⟩ := hboth.mp ⟨a, ha⟩
    exact ⟨hentry, ha ▸ hboth, a, a', rfl, ha', hdecide a a' ha ha'⟩

/-- One network of ninety bits: written with a mapped address it is refused, and with another of its
addresses, which differs in the bits behind those only, it is not. -/
theorem spelling_refused :
    let c (entry : String) : AdmissionConfig := { mode := .denyList, cidrs := [entry] }
    ∃ x y, Network.SameEntry "::ffff:192.0.2.0/90" "::ffc0:0:0/90" x y
      ∧ AdmissionConfig.Swapped "::ffff:192.0.2.0/90" "::ffc0:0:0/90" (c "::ffff:192.0.2.0/90")
        (c "::ffc0:0:0/90")
      ∧ (¬∃ a, of (c "::ffff:192.0.2.0/90") = .ok a)
      ∧ ∃ a', of (c "::ffc0:0:0/90") = .ok a' := by
  intro c
  have hswapped : AdmissionConfig.Swapped "::ffff:192.0.2.0/90" "::ffc0:0:0/90"
      (c "::ffff:192.0.2.0/90") (c "::ffc0:0:0/90") := .cidr (c "") [] []
  have hleft : Network.read? (Text.trim "::ffff:192.0.2.0/90")
      = some (.v6 (Address.mapped 0xc0000200) 90) := by decide +kernel
  have hright : Network.read? (Text.trim "::ffc0:0:0/90") = some (.v6 (0xffc0 <<< 32) 90) := by
    decide +kernel
  have hagree : Network.Agree 90 (Address.mapped 0xc0000200) (0xffc0 <<< 32) :=
    (Network.agree_iff_div_eq (by decide) _ _).mpr (by decide +kernel)
  refine ⟨_, _, ⟨hleft, hright, .v6 hagree⟩, hswapped,
    hswapped.refused hleft ⟨by decide, _, rfl⟩, ?_⟩
  rw [exists_of_iff]
  intro entry hentry
  obtain rfl : entry = "::ffc0:0:0/90" := by simpa [c] using hentry
  refine (Network.exists_ofEntry?_iff _).mpr ⟨_, hright, fun h => ?_⟩
  obtain ⟨-, b, hb⟩ := h
  have hunmapped := Address.unmapped?_eq_some_iff.mpr hb
  exact absurd hunmapped (by rw [show Address.unmapped? (0xffc0 <<< 32) = none by decide +kernel]; simp)

end Admission

end Turnstile
