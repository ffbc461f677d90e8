import Mathlib.Data.List.Forall2
import Mathlib.Data.List.TakeWhile
import Turnstile.Admission
import Turnstile.Proofs.Network

/-!
# Who is admitted

What admission decides, said without the loops that decide it. A configuration is read entry by entry,
and stands if every entry does. The address of a client is that of its connection, unless a trusted
network holds that and some header that is asked tells an address; the first such header counts, and of
it only the first value, up to the first comma. Who is admitted is then settled by whether some network
of the list holds the address.

* `Admission.Reads`: what a configuration is read to, and `Admission.of_eq_ok_iff`.
* `Metadata.Tells`, `Metadata.FirstTold`: what headers tell; `ClientAddress.fromHeaders?_eq_some_iff`.
* `ClientAddress.Locates`: the address of a client, and `ClientAddress.resolve?_eq_some_iff`.
* `Admission.decides_by_location`: the whole decision.
-/

namespace Turnstile

/-! ## Reading a configuration -/

/-- Entries and the networks that are stored for them, one for one. -/
def Network.Stored (entries : List String) (ns : List Network) : Prop :=
  List.Forall₂ (fun entry n => ofEntry? entry = .ok n) entries ns

theorem Network.ofEntries?_eq_ok_iff {entries : List String} {ns : List Network} :
    ofEntries? entries = .ok ns ↔ Stored entries ns := by
  unfold Stored
  induction entries generalizing ns with
  | nil =>
    rw [List.forall₂_nil_left_iff, ofEntries?, Except.ok.injEq, eq_comm]
  | cons entry entries ih =>
    rw [List.forall₂_cons_left_iff, ofEntries?]
    cases ofEntry? entry with
    | error e =>
      constructor
      · intro h
        cases h
      · rintro ⟨n, rest, hn, -⟩
        cases hn
    | ok n =>
      dsimp only
      cases hrest : ofEntries? entries with
      | error e =>
        constructor
        · intro h
          cases h
        · rintro ⟨-, rest, -, hrest', -⟩
          rw [ih.mpr hrest'] at hrest
          cases hrest
      | ok rest =>
        constructor
        · intro h
          exact ⟨n, rest, rfl, ih.mp hrest, (Except.ok.inj h).symm⟩
        · rintro ⟨n', rest', hn, hrest', rfl⟩
          obtain rfl := Except.ok.inj hn
          obtain rfl := Except.ok.inj (hrest.symm.trans (ih.mpr hrest'))
          rfl

/-- Entries can be stored if each of them can. -/
theorem Network.exists_stored_iff (entries : List String) :
    (∃ ns, Stored entries ns) ↔ ∀ entry ∈ entries, ∃ n, ofEntry? entry = .ok n := by
  unfold Stored
  induction entries with
  | nil => simp
  | cons entry entries ih => simp [ih, List.forall₂_cons_left_iff]

/-- The headers that are asked: those that were given, in small letters, or the default ones. -/
def AdmissionConfig.asked (c : AdmissionConfig) : List String :=
  if c.headerPriority = [] then ["x-real-ip", "x-forwarded-for"]
  else c.headerPriority.map Text.lowerAscii

namespace Admission

/-- What a configuration is read to. -/
structure Reads (c : AdmissionConfig) (a : Admission) : Prop where
  mode : a.mode = c.mode
  cidrs : Network.Stored c.cidrs a.cidrs
  proxies : Network.Stored c.trustedProxies a.client.trustedProxies
  headers : a.client.headers = c.asked

theorem headers_of_asked (c : AdmissionConfig) (proxies : List Network) :
    (ClientAddress.of proxies c.headerPriority).headers = c.asked := by
  simp only [ClientAddress.of, AdmissionConfig.asked, List.isEmpty_iff]
  rfl

/-- **A configuration is read** entry by entry. -/
theorem of_eq_ok_iff {c : AdmissionConfig} {a : Admission} : of c = .ok a ↔ Reads c a := by
  constructor
  · intro h
    unfold of at h
    split at h
    · cases h
    · rename_i cidrs hcidrs
      split at h
      · cases h
      · rename_i proxies hproxies
        obtain rfl := Except.ok.inj h
        exact ⟨rfl, Network.ofEntries?_eq_ok_iff.mp hcidrs, Network.ofEntries?_eq_ok_iff.mp hproxies,
          headers_of_asked c proxies⟩
  · intro h
    unfold of
    rw [Network.ofEntries?_eq_ok_iff.mpr h.cidrs]
    dsimp only
    rw [Network.ofEntries?_eq_ok_iff.mpr h.proxies]
    dsimp only
    rw [← h.mode]
    have hheaders := (headers_of_asked c a.client.trustedProxies).trans h.headers.symm
    obtain ⟨mode, cidrs, proxies, headers⟩ := a
    obtain rfl : (ClientAddress.of proxies c.headerPriority).headers = headers := hheaders
    rfl

/-- A configuration stands if each of its entries does. -/
theorem exists_of_iff (c : AdmissionConfig) :
    (∃ a, of c = .ok a)
      ↔ ∀ entry ∈ c.cidrs ++ c.trustedProxies, ∃ n, Network.ofEntry? entry = .ok n := by
  simp only [List.mem_append, or_imp, forall_and, ← Network.exists_stored_iff, of_eq_ok_iff]
  constructor
  · rintro ⟨a, h⟩
    exact ⟨⟨_, h.cidrs⟩, ⟨_, h.proxies⟩⟩
  · rintro ⟨⟨cidrs, hcidrs⟩, ⟨proxies, hproxies⟩⟩
    exact ⟨⟨c.mode, cidrs, .of proxies c.headerPriority⟩, rfl, hcidrs, hproxies,
      headers_of_asked c proxies⟩

end Admission

/-! ## What headers tell -/

/-- What comes before the first comma. -/
def Text.UpToComma (text front : List Char) : Prop :=
  ',' ∉ front ∧ (text = front ∨ ∃ rest, text = front ++ ',' :: rest)

theorem Text.upToComma_iff (text front : List Char) :
    Text.UpToComma text front ↔ text.takeWhile (· ≠ ',') = front := by
  constructor
  · rintro ⟨hfront, rfl | ⟨rest, rfl⟩⟩
    · rw [List.takeWhile_eq_self_iff]
      intro c hc
      simpa using fun h : c = ',' => hfront (h ▸ hc)
    · rw [List.takeWhile_append_of_pos]
      · simp
      · intro c hc
        simpa using fun h : c = ',' => hfront (h ▸ hc)
  · rintro rfl
    refine ⟨fun h => by simpa using List.mem_takeWhile_imp h, ?_⟩
    have hsplit := List.takeWhile_append_dropWhile (p := (· ≠ ',')) (l := text)
    have hcomma := List.head?_dropWhile_not (fun c : Char => decide (c ≠ ',')) text
    cases hrest : text.dropWhile (· ≠ ',') with
    | nil =>
      rw [hrest, List.append_nil] at hsplit
      exact .inl hsplit.symm
    | cons c rest =>
      rw [hrest] at hsplit hcomma
      obtain rfl : c = ',' := by simpa using hcomma
      exact .inr ⟨rest, hsplit.symm⟩

namespace Metadata

/-- The first header of a name. -/
def First (m : Metadata) (name : String) (h : Header) : Prop :=
  ∃ before after, m.entries = before ++ h :: after ∧ h.name = name ∧ ∀ h' ∈ before, h'.name ≠ name

/-- The first value of a name is readable as text, and what comes before its first comma is, without the
blanks around it, an address; in its canonical form this is what the header tells. -/
def Tells (m : Metadata) (name : String) (x : Address) : Prop :=
  Header.isBinary name = false
  ∧ ∃ h text front y, m.First name h ∧ h.text? = some text ∧ Text.UpToComma text.toList front
    ∧ Address.read? (Text.trim (String.ofList front)) = some y ∧ x = y.canonical

/-- The first header of a list that tells an address tells this one. -/
def FirstTold (m : Metadata) (names : List String) (x : Address) : Prop :=
  ∃ before name after, names = before ++ name :: after ∧ m.Tells name x
    ∧ ∀ skipped ∈ before, ∀ y, ¬m.Tells skipped y

theorem find?_eq_some_iff (m : Metadata) (name : String) (h : Header) :
    m.find? name = some h ↔ m.First name h := by
  unfold find? First
  rw [List.find?_eq_some_iff_append]
  simp only [decide_eq_true_eq, Bool.not_eq_true', decide_eq_false_iff_not]
  constructor
  · rintro ⟨hname, before, after, hentries, hbefore⟩
    exact ⟨before, after, hentries, hname, hbefore⟩
  · rintro ⟨before, after, hentries, hname, hbefore⟩
    exact ⟨hname, before, after, hentries, hbefore⟩

theorem tells_iff (m : Metadata) (name : String) (x : Address) :
    (m.text? name).bind ClientAddress.ofForwarded? = some x ↔ m.Tells name x := by
  unfold text? Tells ClientAddress.ofForwarded?
  cases Header.isBinary name with
  | true => simp
  | false =>
    simp only [Bool.false_eq_true, if_false, true_and, Option.bind_eq_some_iff,
      Option.map_eq_some_iff, find?_eq_some_iff, Text.upToComma_iff]
    constructor
    · rintro ⟨text, ⟨h, hfirst, htext⟩, y, hy, rfl⟩
      exact ⟨h, text, _, y, hfirst, htext, rfl, hy, rfl⟩
    · rintro ⟨h, text, _, y, hfirst, htext, rfl, hy, rfl⟩
      exact ⟨text, ⟨h, hfirst, htext⟩, y, hy, rfl⟩

end Metadata

namespace ClientAddress

/-- **Headers are asked in their order**, up to the first that tells an address. -/
theorem fromHeaders?_eq_some_iff (c : ClientAddress) (m : Metadata) (x : Address) :
    c.fromHeaders? m = some x ↔ m.FirstTold c.headers x := by
  unfold fromHeaders? Metadata.FirstTold
  rw [List.findSome?_eq_some_iff]
  simp only [Metadata.tells_iff, Option.eq_none_iff_forall_ne_some, ne_eq]

theorem fromHeaders?_eq_none_iff (c : ClientAddress) (m : Metadata) :
    c.fromHeaders? m = none ↔ ∀ name ∈ c.headers, ∀ x, ¬m.Tells name x := by
  unfold fromHeaders?
  rw [List.findSome?_eq_none_iff]
  simp only [Option.eq_none_iff_forall_ne_some, ne_eq, Metadata.tells_iff]

/-! ## Where a client is -/

/-- The address of a client whose connection comes from an endpoint: the endpoint's, unless it is that of
a trusted proxy and some header tells another. -/
inductive Locates (c : ClientAddress) (e : Endpoint) (m : Metadata) : Address → Prop
  | direct : (∀ n ∈ c.trustedProxies, ¬n.Covers e.address.canonical) →
      Locates c e m e.address.canonical
  | told {n : Network} {x : Address} : n ∈ c.trustedProxies → n.Covers e.address.canonical →
      m.FirstTold c.headers x → Locates c e m x
  | untold {n : Network} : n ∈ c.trustedProxies → n.Covers e.address.canonical →
      (∀ name ∈ c.headers, ∀ x, ¬m.Tells name x) → Locates c e m e.address.canonical

theorem trusts_iff (c : ClientAddress) (x : Address) :
    c.trusts x = true ↔ ∃ n ∈ c.trustedProxies, n.Covers x :=
  Network.anyContains_iff c.trustedProxies x

theorem not_trusts_iff (c : ClientAddress) (x : Address) :
    c.trusts x = false ↔ ∀ n ∈ c.trustedProxies, ¬n.Covers x := by
  rw [← Bool.not_eq_true, trusts_iff]
  push Not
  rfl

/-- A client is found where it is. -/
theorem locates_of_resolve? {c : ClientAddress} {e : Endpoint} {m : Metadata} {x : Address}
    (h : c.resolve? (some e) m = some x) : c.Locates e m x := by
  simp only [resolve?] at h
  cases ht : c.trusts e.address.canonical with
  | false =>
    rw [ht, if_neg Bool.false_ne_true] at h
    obtain rfl := Option.some.inj h
    exact .direct ((c.not_trusts_iff _).mp ht)
  | true =>
    rw [ht, if_pos rfl] at h
    obtain ⟨n, hn, hcovers⟩ := (c.trusts_iff _).mp ht
    cases hx : c.fromHeaders? m with
    | none =>
      rw [hx] at h
      obtain rfl := Option.some.inj h
      exact .untold hn hcovers ((c.fromHeaders?_eq_none_iff m).mp hx)
    | some y =>
      rw [hx] at h
      obtain rfl := Option.some.inj h
      exact .told hn hcovers ((c.fromHeaders?_eq_some_iff m y).mp hx)

/-- **Where a client is** is what is found. -/
theorem resolve?_eq_some_iff {c : ClientAddress} {e : Endpoint} {m : Metadata} {x : Address} :
    c.resolve? (some e) m = some x ↔ c.Locates e m x := by
  refine ⟨locates_of_resolve?, ?_⟩
  intro h
  simp only [resolve?]
  cases h with
  | direct hdirect => rw [(c.not_trusts_iff _).mpr hdirect, if_neg Bool.false_ne_true]
  | told hn hcovers htold =>
    rw [(c.trusts_iff _).mpr ⟨_, hn, hcovers⟩, if_pos rfl,
      (c.fromHeaders?_eq_some_iff m x).mpr htold, Option.getD_some]
  | untold hn hcovers huntold =>
    rw [(c.trusts_iff _).mpr ⟨_, hn, hcovers⟩, if_pos rfl,
      (c.fromHeaders?_eq_none_iff m).mpr huntold, Option.getD_none]

/-- A client with an endpoint is found. -/
theorem exists_resolve? (c : ClientAddress) (e : Endpoint) (m : Metadata) :
    ∃ x, c.resolve? (some e) m = some x := by
  simp only [resolve?]
  split
  · exact ⟨_, rfl⟩
  · exact ⟨_, rfl⟩

end ClientAddress

/-! ## The decision -/

namespace Admission

/-- The addresses that a list of networks admits, read in one mode or the other. -/
def Listed (mode : AdmissionMode) (ns : List Network) (x : Address) : Prop :=
  match mode with
  | .allowList => ∃ n ∈ ns, n.Covers x
  | .denyList => ∀ n ∈ ns, ¬n.Covers x

theorem evaluate_of_resolve? {a : Admission} {peer : Option Endpoint} {m : Metadata} {x : Address}
    (h : a.client.resolve? peer m = some x) : a.evaluate peer m = a.admits x := by
  unfold evaluate
  rw [h]

/-- The two modes decide the opposite about an address. -/
theorem admits_opposite (a : Admission) {mode : AdmissionMode} (h : mode ≠ a.mode) (x : Address) :
    ({ a with mode } : Admission).admits x = !a.admits x := by
  unfold admits
  cases hmode : a.mode with
  | allowList =>
    cases mode with
    | allowList => exact absurd hmode.symm h
    | denyList => rfl
  | denyList =>
    cases mode with
    | allowList => exact (Bool.not_not _).symm
    | denyList => exact absurd hmode.symm h

theorem admits_iff (a : Admission) (x : Address) : a.admits x = true ↔ Listed a.mode a.cidrs x := by
  unfold admits Listed
  cases a.mode with
  | allowList => exact Network.anyContains_iff a.cidrs x
  | denyList =>
    dsimp only
    rw [Bool.not_eq_true', ← Bool.not_eq_true, Network.anyContains_iff]
    push Not
    rfl

/-- **Who is admitted.** For a configuration that stands, and for any headers:
* what is stored is the configuration's mode, a network for each of its entries, and the headers to ask;
* a client without an address is not admitted, in either mode;
* a mapped address is taken for the one that it was made from, and any other address for itself;
* every other client is at exactly one address, and is admitted exactly if the list admits this address:
  if some network of it holds the address, or none, as the mode is;
* the configuration with the other mode stands too, and decides the opposite about every client with an
  address. -/
theorem decides_by_location {c : AdmissionConfig} {a : Admission} (h : of c = .ok a) (m : Metadata) :
    Reads c a
    ∧ a.evaluate none m = false
    ∧ (∀ b, (Address.v6 (Address.mapped b)).canonical = .v4 b)
    ∧ (∀ b : Address, (∀ b', b ≠ .v6 (Address.mapped b')) → b.canonical = b)
    ∧ (∀ e, ∃ x, a.client.Locates e m x ∧ (∀ y, a.client.Locates e m y → y = x)
        ∧ (a.evaluate (some e) m = true ↔ Listed c.mode a.cidrs x))
    ∧ ∀ mode, mode ≠ c.mode → ∃ a', of { c with mode } = .ok a'
        ∧ ∀ e, a'.evaluate (some e) m = !a.evaluate (some e) m := by
  have hreads := of_eq_ok_iff.mp h
  refine ⟨hreads, rfl, Address.canonical_mapped, fun b hb => Address.canonical_of_ne hb, ?_, ?_⟩
  · intro e
    obtain ⟨x, hx⟩ := a.client.exists_resolve? e m
    refine ⟨x, ClientAddress.resolve?_eq_some_iff.mp hx, ?_, ?_⟩
    · intro y hy
      exact Option.some.inj ((ClientAddress.resolve?_eq_some_iff.mpr hy).symm.trans hx)
    · rw [evaluate_of_resolve? hx, admits_iff, hreads.mode]
  · intro mode hmode
    refine ⟨{ a with mode }, of_eq_ok_iff.mpr ⟨rfl, hreads.cidrs, hreads.proxies, hreads.headers⟩, ?_⟩
    intro e
    obtain ⟨x, hx⟩ := a.client.exists_resolve? e m
    rw [evaluate_of_resolve? hx, evaluate_of_resolve? (a := { a with mode }) hx]
    exact admits_opposite a (by rwa [hreads.mode]) x

/-- A network that is shut out and a trusted proxy, whose own address is told as a mapped one. It sends a
value that is no address in the first header that is asked, and in the second a value that is, in a chain,
before one that would be admitted. -/
theorem decides_by_location_behind_proxy :
    let text (name s : String) : Header := ⟨name, s.toList.map fun c => UInt8.ofNat c.toNat⟩
    let c : AdmissionConfig :=
      { mode := .denyList, cidrs := ["203.0.113.77/24", "2001:db8::/32"],
        trustedProxies := [" ::ffff:10.0.0.0/104 "], headerPriority := ["X-Real-IP", "X-Client"] }
    let proxy : Endpoint := { address := .v6 (Address.mapped 0x0a010203), port := 443 }
    let m : Metadata := ⟨[text "x-client" " 203.0.113.5 , 198.51.100.7", text "x-real-ip" "unknown",
      text "x-real-ip" "198.51.100.7", text "x-client" "198.51.100.7"]⟩
    ∃ a, of c = .ok a
      ∧ a.client.Locates proxy m (.v4 0xcb007105)
      ∧ (a.evaluate (some proxy) m = true ↔ Listed .denyList a.cidrs (.v4 0xcb007105))
      ∧ a.evaluate (some proxy) m = false
      ∧ a.evaluate none m = false
      ∧ ∃ a', of { c with mode := .allowList } = .ok a' ∧ a'.evaluate (some proxy) m = true := by
  intro text c proxy m
  have hdecided : (of c).toOption.map (fun a =>
      (a.client.resolve? (some proxy) m, a.evaluate (some proxy) m))
      = some (some (.v4 0xcb007105), false) := by
    decide +kernel
  cases ha : of c with
  | error e =>
    rw [ha] at hdecided
    cases hdecided
  | ok a =>
    rw [ha] at hdecided
    obtain ⟨hresolve, hevaluate⟩ := Prod.mk.inj (Option.some.inj hdecided)
    obtain ⟨-, hnone, -, -, hlocated, hopposite⟩ := decides_by_location ha m
    obtain ⟨x, -, hunique, hlisted⟩ := hlocated proxy
    have hat := ClientAddress.resolve?_eq_some_iff.mp hresolve
    obtain rfl := hunique _ hat
    obtain ⟨a', ha', hflip⟩ := hopposite .allowList (by decide)
    refine ⟨a, rfl, hat, hlisted, hevaluate, hnone, a', ha', ?_⟩
    rw [hflip proxy, hevaluate]
    rfl

end Admission

end Turnstile
