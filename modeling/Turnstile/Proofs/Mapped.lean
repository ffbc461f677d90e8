import Turnstile.Proofs.MappedText
import Turnstile.Proofs.Spelling

/-!
# Addresses of the fourth version and mapped ones

An address of the fourth version and the mapped one that stands for it are one address to admission,
wherever they are written: as an entry of the configuration, with a length or without, as the address of
a connection, or in a header. Each of the three is brought to the fourth version in a place of its own;
here the two spellings are followed through all of them, from the text on.

* `Text.Around`: a text with something else between the blanks at its ends; `Text.trim_eq`.
* `Network.Remapped`, `Network.EntryRemapped`: an entry and its mapped spelling, and how both are stored.
* `Header.Remapped`, `Metadata.Remapped`: headers with mapped addresses, which tell the same.
* `Admission.mapped_interchangeable`: admission decides the same under both spellings.
-/

namespace Turnstile

/-! ## Texts between blanks -/

namespace Text

/-- Two texts with the same blanks at their ends, and with related texts between them. -/
def Around (R : List Char → List Char → Prop) (t t' : List Char) : Prop :=
  ∃ left core core' right, (∀ c ∈ left, isBlank c = true) ∧ (∀ c ∈ right, isBlank c = true)
    ∧ R core core' ∧ t = left ++ core ++ right ∧ t' = left ++ core' ++ right

theorem dropWhile_blank {left rest : List Char} (hleft : ∀ c ∈ left, isBlank c = true)
    (hrest : ∀ c ∈ rest.head?, isBlank c = false) : (left ++ rest).dropWhile isBlank = rest := by
  rw [List.dropWhile_append_of_pos hleft]
  cases rest with
  | nil => rfl
  | cons c rest => simp [hrest c rfl]

/-- What is between the blanks is what is left of a text without them. -/
theorem trim_eq {s : String} {left core right : List Char} (hs : s.toList = left ++ core ++ right)
    (hleft : ∀ c ∈ left, isBlank c = true) (hright : ∀ c ∈ right, isBlank c = true)
    (hcore : ∀ c ∈ core, isBlank c = false) : trim s = String.ofList core := by
  unfold trim
  rw [hs]
  cases core with
  | nil =>
    have hall : (left ++ [] ++ right).dropWhile isBlank = [] := by
      have hblank : ∀ c ∈ left ++ [] ++ right, isBlank c = true := by
        simpa [or_imp, forall_and] using ⟨hleft, hright⟩
      simpa using hblank
    rw [hall]
    rfl
  | cons c core =>
    have hfront : (left ++ c :: core ++ right).dropWhile isBlank = c :: core ++ right := by
      rw [List.append_assoc]
      exact dropWhile_blank hleft (by simpa using hcore c List.mem_cons_self)
    have hback : (c :: core ++ right).reverse.dropWhile isBlank = (c :: core).reverse := by
      rw [List.reverse_append]
      refine dropWhile_blank (fun d hd => hright d (List.mem_reverse.mp hd)) ?_
      intro d hd
      exact hcore d (List.mem_reverse.mp (List.mem_of_mem_head? hd))
    rw [hfront, hback, List.reverse_reverse]

/-- A text is what is left of it without the blanks at its ends, between these. -/
theorem exists_blanks (s : String) : ∃ left right, (∀ c ∈ left, isBlank c = true)
    ∧ (∀ c ∈ right, isBlank c = true) ∧ s.toList = left ++ (trim s).toList ++ right := by
  have hfront := List.takeWhile_append_dropWhile (p := isBlank) (l := s.toList)
  have hback := List.takeWhile_append_dropWhile (p := isBlank) (l := (s.toList.dropWhile isBlank).reverse)
  refine ⟨s.toList.takeWhile isBlank, ((s.toList.dropWhile isBlank).reverse.takeWhile isBlank).reverse,
    fun c hc => List.mem_takeWhile_imp hc,
    fun c hc => List.mem_takeWhile_imp (List.mem_reverse.mp hc), ?_⟩
  unfold trim
  rw [String.toList_ofList, List.append_assoc, ← List.reverse_append, hback, List.reverse_reverse,
    hfront]

end Text

/-! ## Entries -/

namespace Address

/-- The text of an address of the fourth version, and the same text behind the mark. -/
def Remapped (core core' : List Char) : Prop :=
  ∃ b, read? (String.ofList core) = some (.v4 b) ∧ core' = mark ++ core

end Address

namespace Network

/-- An entry for a network of the fourth version, and the mapped network in its place: with an address
that stands alone, and with a length, which is that of the bits in front and its own. -/
inductive Remapped : List Char → List Char → Prop
  | host {quad : List Char} {b : BitVec 32} : Address.read? (String.ofList quad) = some (.v4 b) →
      Remapped quad (Address.mark ++ quad)
  | withLength {quad ds : List Char} {b : BitVec 32} {n : Nat} {hn : n ≤ 32} :
      Address.read4? .lax quad = some (b, []) → readLength? 2 32 ('/' :: ds) = some ⟨n, hn⟩ →
      Remapped (quad ++ '/' :: ds) (Address.mark ++ quad ++ '/' :: Nat.toDigits 10 (96 + n))

/-- An entry that is left as it is, or has the mapped network in its place, between the same blanks. -/
def EntryRemapped (entry entry' : String) : Prop :=
  entry = entry' ∨ Text.Around Remapped entry.toList entry'.toList

/-- Neither spelling has blanks in it. -/
theorem Remapped.isBlank_eq {core core' : List Char} (h : Remapped core core') :
    (∀ c ∈ core, Text.isBlank c = false) ∧ ∀ c ∈ core', Text.isBlank c = false := by
  cases h with
  | host hread =>
    have hreads := Address.read?_eq_v4_iff.mp hread
    exact ⟨hreads.isBlank_eq, hreads.isBlank_mark⟩
  | @withLength quad ds b n hn hread hlength =>
    have hreads := Address.reads4_iff.mpr hread
    exact ⟨List.forall_mem_append.mpr ⟨hreads.isBlank_eq, isBlank_of_readLength? hlength⟩,
      List.forall_mem_append.mpr ⟨hreads.isBlank_mark, isBlank_of_readLength? (readLength?_digits hn)⟩⟩

/-- The spellings are read to the network and to the mapped one. -/
theorem Remapped.read? {core core' : List Char} (h : Remapped core core') :
    ∃ b n, ∃ hn : n ≤ 32, Network.read? (String.ofList core) = some (.v4 b n hn)
      ∧ Network.read? (String.ofList core')
        = some (.v6 (Address.mapped b) (96 + n) (Nat.add_le_add_left hn 96)) := by
  cases h with
  | @host quad b hread =>
    have hreads := Address.read?_eq_v4_iff.mp hread
    exact ⟨b, 32, Nat.le_refl 32, read?_quad hreads, read?_mark hreads⟩
  | @withLength quad ds b n hn hread hlength =>
    have hreads := Address.reads4_iff.mpr hread
    refine ⟨b, n, hn, ?_, ?_⟩
    · rw [Network.read?, readPrefixed?_quad hreads hlength]
      rfl
    · rw [Network.read?, readPrefixed?_mark hreads (readLength?_digits hn)]
      rfl

/-- **Both spellings of an entry** stand, and are stored as networks that are the same. -/
theorem Remapped.exists_ofEntry? {entry entry' : String}
    (h : Text.Around Remapped entry.toList entry'.toList) :
    ∃ x y, Network.ofEntry? entry = .ok x ∧ Network.ofEntry? entry' = .ok y ∧ x.Same y := by
  obtain ⟨left, core, core', right, hleft, hright, hcore, hentry, hentry'⟩ := h
  obtain ⟨hblank, hblank'⟩ := hcore.isBlank_eq
  obtain ⟨b, n, hn, hread, hread'⟩ := hcore.read?
  have htrim := Text.trim_eq hentry hleft hright hblank
  have htrim' := Text.trim_eq hentry' hleft hright hblank'
  obtain ⟨y, hy, hsame⟩ := canonical?_mapped (n := 96 + n) (by omega) (by omega) b
  refine ⟨.v4 b n hn, y, ofEntry?_of_read? (htrim ▸ hread), ?_, by simpa using hsame⟩
  rw [ofEntry?_of_read? (htrim' ▸ hread'), hy]

theorem EntryRemapped.exists_ofEntry?_iff {entry entry' : String} (h : EntryRemapped entry entry') :
    (∃ n, ofEntry? entry = .ok n) ↔ ∃ n, ofEntry? entry' = .ok n := by
  rcases h with rfl | hentry
  · exact Iff.rfl
  · obtain ⟨x, y, hx, hy, -⟩ := Remapped.exists_ofEntry? hentry
    exact ⟨fun _ => ⟨y, hy⟩, fun _ => ⟨x, hx⟩⟩

theorem EntryRemapped.same {entry entry' : String} (h : EntryRemapped entry entry') {n n' : Network}
    (hn : ofEntry? entry = .ok n) (hn' : ofEntry? entry' = .ok n') : n.Same n' := by
  rcases h with rfl | hentry
  · obtain rfl := Except.ok.inj (hn.symm.trans hn')
    exact .refl n
  · obtain ⟨x, y, hx, hy, hsame⟩ := Remapped.exists_ofEntry? hentry
    obtain rfl := Except.ok.inj (hx.symm.trans hn)
    obtain rfl := Except.ok.inj (hy.symm.trans hn')
    exact hsame

/-- Every entry for a network of the fourth version has a mapped spelling. -/
theorem exists_remapped {entry : String} {b : BitVec 32} {n : Nat} {hn : n ≤ 32}
    (h : Network.read? (Text.trim entry) = some (.v4 b n hn)) :
    ∃ entry' : String, Text.Around Remapped entry.toList entry'.toList := by
  obtain ⟨left, right, hleft, hright, hentry⟩ := Text.exists_blanks entry
  obtain ⟨core', hcore⟩ : ∃ core', Remapped (Text.trim entry).toList core' := by
    rcases exists_quad_of_read? h with hreads | ⟨quad, ds, hquad, hreads, hlength⟩
    · exact ⟨_, .host (Address.read?_eq_v4_iff.mpr hreads)⟩
    · rw [hquad]
      exact ⟨_, .withLength (Address.reads4_iff.mp hreads) hlength⟩
  exact ⟨String.ofList (left ++ core' ++ right), left, _, core', right, hleft, hright, hcore, hentry,
    String.toList_ofList⟩

end Network

/-! ## Requests -/

/-- An endpoint that is left as it is, or has the mapped address in the place of its own. -/
def Endpoint.Remapped (e e' : Endpoint) : Prop :=
  e = e' ∨ ∃ b, e.address = .v4 b ∧ e' = { e with address := .v6 (Address.mapped b) }

theorem Endpoint.Remapped.canonical_eq {e e' : Endpoint} (h : e.Remapped e') :
    e.address.canonical = e'.address.canonical := by
  rcases h with rfl | ⟨b, hb, rfl⟩
  · rfl
  · rw [hb, Address.canonical_mapped]
    rfl

namespace Address

/-- A part of a list of addresses that is left as it is, or has the mapped address in the place of its
own, between the same blanks. -/
def PartRemapped (part part' : List Char) : Prop := part = part' ∨ Text.Around Remapped part part'

/-- Lists of addresses with commas between them, part by part. -/
inductive ListRemapped : List Char → List Char → Prop
  | last {part part' : List Char} : ',' ∉ part → PartRemapped part part' → ListRemapped part part'
  | more {part part' rest rest' : List Char} : ',' ∉ part → PartRemapped part part' →
      ListRemapped rest rest' → ListRemapped (part ++ ',' :: rest) (part' ++ ',' :: rest')

/-- Both spellings of a part tell the same address. -/
theorem PartRemapped.read?_eq {part part' : List Char} (h : PartRemapped part part') :
    (read? (Text.trim (String.ofList part))).map canonical
      = (read? (Text.trim (String.ofList part'))).map canonical := by
  rcases h with rfl | ⟨left, core, _, right, hleft, hright, ⟨b, hread, rfl⟩, rfl, rfl⟩
  · rfl
  · have hreads := read?_eq_v4_iff.mp hread
    rw [Text.trim_eq String.toList_ofList hleft hright hreads.isBlank_eq,
      Text.trim_eq String.toList_ofList hleft hright hreads.isBlank_mark, hread, hreads.read?_mark,
      Option.map_some, Option.map_some, canonical_mapped]
    rfl

theorem PartRemapped.comma {part part' : List Char} (h : PartRemapped part part')
    (hpart : ',' ∉ part) : ',' ∉ part' := by
  rcases h with rfl | ⟨left, core, _, right, -, -, ⟨b, -, rfl⟩, rfl, rfl⟩
  · exact hpart
  · simpa [mark] using hpart

/-- The first parts of such lists. -/
theorem ListRemapped.front {t t' : List Char} (h : ListRemapped t t') :
    ∃ part part', Text.UpToComma t part ∧ Text.UpToComma t' part' ∧ PartRemapped part part' := by
  cases h with
  | last hcomma hpart =>
    exact ⟨t, t', ⟨hcomma, .inl rfl⟩, ⟨hpart.comma hcomma, .inl rfl⟩, hpart⟩
  | more hcomma hpart hrest =>
    exact ⟨_, _, ⟨hcomma, .inr ⟨_, rfl⟩⟩, ⟨hpart.comma hcomma, .inr ⟨_, rfl⟩⟩, hpart⟩

/-- **Both spellings of a list** tell the same address. -/
theorem ListRemapped.ofForwarded?_eq {t t' : List Char} (h : ListRemapped t t') :
    ClientAddress.ofForwarded? (String.ofList t) = ClientAddress.ofForwarded? (String.ofList t') := by
  obtain ⟨part, part', hpart, hpart', hremapped⟩ := h.front
  unfold ClientAddress.ofForwarded?
  rw [String.toList_ofList, String.toList_ofList, (Text.upToComma_iff _ _).mp hpart,
    (Text.upToComma_iff _ _).mp hpart', hremapped.read?_eq]

/-- What is in every place of a list is so in both spellings, if it is in the mark. -/
theorem ListRemapped.all_eq {t t' : List Char} (h : ListRemapped t t') {shown : Char → Bool}
    (hmark : mark.all shown = true) : t.all shown = t'.all shown := by
  have hparts : ∀ {part part'}, PartRemapped part part' → part.all shown = part'.all shown := by
    rintro part part' (rfl | ⟨left, core, _, right, -, -, ⟨b, -, rfl⟩, rfl, rfl⟩)
    · rfl
    · simp [List.all_append, hmark]
  induction h with
  | last _ hpart => exact hparts hpart
  | more _ hpart _ ih => rw [List.all_append, List.all_append, hparts hpart, List.all_cons,
      List.all_cons, ih]

end Address

namespace Header

/-- The bytes of a value, each as the character of its number. -/
def characters (h : Header) : List Char := h.value.map fun b => Char.ofNat b.toNat

/-- A header that is left as it is, or has mapped addresses in its list of addresses. -/
structure Remapped (h h' : Header) : Prop where
  name : h.name = h'.name
  value : h.value = h'.value ∨ Address.ListRemapped h.characters h'.characters

/-- Whether a character is one that a readable value may have. -/
def shows (c : Char) : Bool := c.toNat == 9 || (0x20 ≤ c.toNat && c.toNat < 0x7f)

theorem shows_ofNat (b : UInt8) : shows (Char.ofNat b.toNat) = isShown b := by
  have hall : ∀ n < 256, shows (Char.ofNat n) = isShown (UInt8.ofNat n) := by decide +kernel
  rw [hall b.toNat b.toNat_lt, UInt8.ofNat_toNat]

theorem text?_eq (h : Header) :
    h.text? = if h.characters.all shows then some (String.ofList h.characters) else none := by
  have hshown : h.characters.all shows = h.value.all isShown := by
    unfold characters
    rw [List.all_map]
    exact congrArg h.value.all (funext shows_ofNat)
  rw [hshown]
  rfl

/-- **Both spellings of a header** tell the same address. -/
theorem Remapped.told_eq {h h' : Header} (hr : h.Remapped h') :
    h.text?.bind ClientAddress.ofForwarded? = h'.text?.bind ClientAddress.ofForwarded? := by
  rcases hr.value with hvalue | hlist
  · unfold text?
    rw [hvalue]
  · rw [text?_eq, text?_eq, hlist.all_eq (by decide)]
    split
    · rw [Option.bind_some, Option.bind_some, hlist.ofForwarded?_eq]
    · rw [Option.bind_none]

end Header

namespace Metadata

/-- Headers one by one, each left as it is or with mapped addresses. -/
def Remapped (m m' : Metadata) : Prop := List.Forall₂ Header.Remapped m.entries m'.entries

/-- What a header tells is the same in both spellings. -/
theorem Remapped.told_eq {m m' : Metadata} (h : m.Remapped m') (name : String) :
    (m.text? name).bind ClientAddress.ofForwarded?
      = (m'.text? name).bind ClientAddress.ofForwarded? := by
  obtain ⟨entries⟩ := m
  obtain ⟨entries'⟩ := m'
  unfold text? find?
  cases Header.isBinary name with
  | true => rw [if_pos rfl, if_pos rfl]
  | false =>
    rw [if_neg Bool.false_ne_true, if_neg Bool.false_ne_true]
    unfold Remapped at h
    dsimp only at h ⊢
    induction h with
    | nil => rfl
    | @cons x x' _ _ hr _ ih =>
      rw [List.find?_cons, List.find?_cons, ← hr.name]
      cases decide (x.name = name) with
      | true => exact hr.told_eq
      | false => exact ih

theorem Remapped.fromHeaders?_eq {m m' : Metadata} (h : m.Remapped m') (c : ClientAddress) :
    c.fromHeaders? m = c.fromHeaders? m' := by
  unfold ClientAddress.fromHeaders?
  simp only [h.told_eq]

end Metadata

/-! ## The main statement -/

/-- **Addresses of the fourth version and mapped ones are interchangeable.** Let any entries of a
configuration that stands, among its networks and its trusted proxies, be replaced by their mapped
spellings. Then the new configuration stands too, and decides about every request as the old one decided,
also if the address of the connection, and any addresses in the headers, are replaced by mapped ones.
Every entry for a network of the fourth version has a mapped spelling. -/
theorem Admission.mapped_interchangeable {c c' : AdmissionConfig} {a : Admission} (ha : of c = .ok a)
    (hc : c.Rewritten Network.EntryRemapped c') :
    (∃ a', of c' = .ok a' ∧ (∀ m m', a.evaluate none m = a'.evaluate none m')
      ∧ ∀ e e' m m', e.Remapped e' → m.Remapped m' →
        a.evaluate (some e) m = a'.evaluate (some e') m')
    ∧ ∀ entry b n hn, Network.read? (Text.trim entry) = some (.v4 b n hn) →
        ∃ entry' : String, Text.Around Network.Remapped entry.toList entry'.toList := by
  obtain ⟨a', ha'⟩ := (hc.exists_of_iff fun _ _ he => he.exists_ofEntry?_iff).mp ⟨a, ha⟩
  have halike : a.Alike a' := hc.alike (fun _ _ he _ _ => he.same) ha ha'
  refine ⟨⟨a', ha', fun m m' => rfl, ?_⟩, fun entry b n hn h => Network.exists_remapped h⟩
  intro e e' m m' he hm
  exact halike.evaluate_eq he.canonical_eq (hm.fromHeaders?_eq a.client)

/-- A network and a trusted proxy, both written as mapped ones between the same blanks, in a list that
shuts out and in one that lets in. A request through the proxy that comes from the network, with mapped
addresses too, is refused by the one and admitted by the other; the proxy's own requests fare the other
way round. -/
theorem Admission.mapped_interchangeable_behind_proxy :
    let text (name s : String) : Header := ⟨name, s.toList.map fun c => UInt8.ofNat c.toNat⟩
    let c (mode : AdmissionMode) : AdmissionConfig :=
      { mode, cidrs := ["2001:db8::/32", "203.0.113.77/24"], trustedProxies := [" 10.0.0.1 "] }
    let c' (mode : AdmissionMode) : AdmissionConfig :=
      { c mode with
        cidrs := ["2001:db8::/32", "::ffff:203.0.113.77/120"]
        trustedProxies := [" ::ffff:10.0.0.1 "] }
    let e : Endpoint := { address := .v4 0x0a000001, port := 443 }
    let e' : Endpoint := { e with address := .v6 (Address.mapped 0x0a000001) }
    let m : Metadata := ⟨[text "x-real-ip" "203.0.113.5 , 10.0.0.2"]⟩
    let m' : Metadata := ⟨[text "x-real-ip" "::ffff:203.0.113.5 , 10.0.0.2"]⟩
    (∀ mode, (c mode).Rewritten Network.EntryRemapped (c' mode)) ∧ e.Remapped e' ∧ m.Remapped m'
    ∧ (∃ a a', of (c .denyList) = .ok a ∧ of (c' .denyList) = .ok a'
        ∧ a.evaluate (some e) m = false ∧ a'.evaluate (some e') m' = false
        ∧ a.evaluate (some e) {} = true ∧ a'.evaluate (some e') {} = true)
    ∧ ∃ a a', of (c .allowList) = .ok a ∧ of (c' .allowList) = .ok a'
        ∧ a.evaluate (some e) m = true ∧ a'.evaluate (some e') m' = true
        ∧ a.evaluate (some e) {} = false ∧ a'.evaluate (some e') {} = false := by
  intro text c c' e e' m m'
  have hspace : ∀ c ∈ [' '], Text.isBlank c = true := List.forall_mem_singleton.mpr (by decide)
  have hnetwork : Network.EntryRemapped "203.0.113.77/24" "::ffff:203.0.113.77/120" := by
    have h := @Network.Remapped.withLength "203.0.113.77".toList ['2', '4'] 0xcb00714d 24 (by decide)
      (by decide +kernel) (by decide +kernel)
    exact .inr ⟨[], _, _, [], by simp, by simp, h, by decide +kernel, by decide +kernel⟩
  have hproxy : Network.EntryRemapped " 10.0.0.1 " " ::ffff:10.0.0.1 " := by
    have h := @Network.Remapped.host "10.0.0.1".toList 0x0a000001 (by decide +kernel)
    exact .inr ⟨[' '], _, _, [' '], hspace, hspace, h, by decide +kernel, by decide +kernel⟩
  have hc : ∀ mode, (c mode).Rewritten Network.EntryRemapped (c' mode) := fun mode =>
    ⟨rfl, .cons (.inl rfl) (.cons hnetwork .nil), .cons hproxy .nil, rfl⟩
  have he : e.Remapped e' := .inr ⟨_, rfl, rfl⟩
  have hm : m.Remapped m' := by
    have hpart : Address.PartRemapped "203.0.113.5 ".toList "::ffff:203.0.113.5 ".toList :=
      .inr ⟨[], "203.0.113.5".toList, _, [' '], by simp, hspace,
        ⟨0xcb007105, by decide +kernel, rfl⟩, by decide +kernel, by decide +kernel⟩
    have hlist := Address.ListRemapped.more (by decide +kernel) hpart
      (.last (by decide +kernel) (.inl (Eq.refl " 10.0.0.2".toList)))
    have hvalue : (text "x-real-ip" "203.0.113.5 , 10.0.0.2").characters
        = "203.0.113.5 ".toList ++ ',' :: " 10.0.0.2".toList := by
      decide +kernel
    have hvalue' : (text "x-real-ip" "::ffff:203.0.113.5 , 10.0.0.2").characters
        = "::ffff:203.0.113.5 ".toList ++ ',' :: " 10.0.0.2".toList := by
      decide +kernel
    rw [← hvalue, ← hvalue'] at hlist
    exact .cons ⟨rfl, .inr hlist⟩ .nil
  have hbare : ({} : Metadata).Remapped {} := .nil
  -- what the old configuration decides of the two requests, the new one decides of the mapped ones
  have hboth : ∀ mode proxied bare,
      (of (c mode)).toOption.map (fun a => (a.evaluate (some e) m, a.evaluate (some e) {}))
        = some (proxied, bare) →
      ∃ a a', of (c mode) = .ok a ∧ of (c' mode) = .ok a'
        ∧ a.evaluate (some e) m = proxied ∧ a'.evaluate (some e') m' = proxied
        ∧ a.evaluate (some e) {} = bare ∧ a'.evaluate (some e') {} = bare := by
    intro mode proxied bare hdecided
    cases ha : of (c mode) with
    | error x =>
      rw [ha] at hdecided
      cases hdecided
    | ok a =>
      rw [ha] at hdecided
      obtain ⟨hproxied, hown⟩ := Prod.mk.inj (Option.some.inj hdecided)
      obtain ⟨⟨a', ha', -, hsame⟩, -⟩ := Admission.mapped_interchangeable ha (hc mode)
      exact ⟨a, a', rfl, ha', hproxied, (hsame e e' m m' he hm).symm.trans hproxied, hown,
        (hsame e e' {} {} he hbare).symm.trans hown⟩
  exact ⟨hc, he, hm, hboth .denyList false true (by decide +kernel),
    hboth .allowList true false (by decide +kernel)⟩

end Turnstile
