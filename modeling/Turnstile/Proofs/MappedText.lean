import Turnstile.Proofs.Network

/-!
# Mapped addresses in writing

A reader of addresses takes a front of its text, made of digits and dots where the address is one of the
fourth version, and does not look further than to the next character. So the text of such an address may
stand behind `::ffff:`, and is read there to the mapped address; and what is written after it may be
replaced, as long as it does not start with a digit.

* `Address.Stops`: a text that does not go on with a digit.
* `Address.Reads4`: a text of an address of the fourth version, read whatever stops it;
  `Address.reads4_of_read4?`, that every such address is read from one; `Address.reads4_iff`, that it is
  enough to read it with nothing behind it.
* `Address.read6?_mark`: the same text behind the mark is read to the mapped address.
* `Network.readPrefixed?_quad`, `Network.readPrefixed?_mark`: networks in both spellings.
-/

namespace Turnstile

namespace Address

/-! ## Digits -/

/-- A text that does not go on with a digit. -/
def Stops (base : Nat) (rest : List Char) : Prop := ∀ c ∈ rest.head?, digit? base c = none

theorem stops_nil (base : Nat) : Stops base [] := by
  intro c hc
  cases hc

theorem stops_cons {base : Nat} {c : Char} (h : digit? base c = none) (rest : List Char) :
    Stops base (c :: rest) := by
  intro d hd
  obtain rfl : c = d := Option.some.inj hd
  exact h

/-- Digits are read up to where they stop. -/
theorem spanDigits_append {base : Nat} {front rest : List Char}
    (hfront : ∀ c ∈ front, (digit? base c).isSome) (hrest : Stops base rest) :
    spanDigits base (front ++ rest) = (front.filterMap (digit? base), rest) := by
  induction front with
  | nil =>
    cases rest with
    | nil => rfl
    | cons c rest => simp [spanDigits, hrest c rfl]
  | cons c front ih =>
    obtain ⟨d, hd⟩ := Option.isSome_iff_exists.mp (hfront c List.mem_cons_self)
    have hih := ih fun c hc => hfront c (List.mem_cons_of_mem _ hc)
    rw [List.cons_append, spanDigits, hd, hih, List.filterMap_cons_some hd]

/-- A text is its digits, and what stops them. -/
theorem exists_digits (base : Nat) (cs : List Char) :
    ∃ front rest, cs = front ++ rest ∧ (∀ c ∈ front, (digit? base c).isSome) ∧ Stops base rest := by
  induction cs with
  | nil => exact ⟨[], [], rfl, by simp, stops_nil base⟩
  | cons c cs ih =>
    cases hc : digit? base c with
    | none => exact ⟨[], c :: cs, rfl, by simp, stops_cons hc cs⟩
    | some d =>
      obtain ⟨front, rest, rfl, hfront, hrest⟩ := ih
      refine ⟨c :: front, rest, rfl, ?_, hrest⟩
      intro c' hc'
      rcases List.mem_cons.mp hc' with rfl | hc'
      · rw [hc]
        rfl
      · exact hfront c' hc'

namespace NumberForm

/-- **A number** is read from some digits, whatever stops them. -/
theorem exists_of_read? {f : NumberForm} {cs rest : List Char} {n : Nat}
    (h : f.read? cs = some (n, rest)) :
    ∃ front, cs = front ++ rest ∧ (∀ c ∈ front, (digit? f.base c).isSome) ∧ front ≠ []
      ∧ Stops f.base rest
      ∧ ∀ rest', Stops f.base rest' → f.read? (front ++ rest') = some (n, rest') := by
  obtain ⟨front, rest₀, rfl, hfront, hrest⟩ := exists_digits f.base cs
  simp only [read?, spanDigits_append hfront hrest] at h
  split at h
  · cases h
  · rename_i hgood
    obtain ⟨rfl, rfl⟩ := Prod.mk.inj (Option.some.inj h)
    refine ⟨front, rfl, hfront, ?_, hrest, ?_⟩
    · rintro rfl
      simp at hgood
    · intro rest' hrest'
      simp only [read?, spanDigits_append hfront hrest', if_neg hgood]

/-- There is no number where there is no digit. -/
theorem read?_of_stops {f : NumberForm} {cs : List Char} (h : Stops f.base cs) : f.read? cs = none := by
  have hspan : spanDigits f.base ([] ++ cs) = ([], cs) := spanDigits_append (by simp) h
  rw [List.nil_append] at hspan
  simp [read?, hspan]

/-- A number without needless zeros is read where these are allowed, too. -/
theorem read?_leadingZeros {base bound : Nat} {digits : Option Nat} {zeros : Bool} {cs : List Char}
    {r : Nat × List Char} (h : read? ⟨base, digits, bound, zeros⟩ cs = some r) :
    read? ⟨base, digits, bound, true⟩ cs = some r := by
  simp only [read?] at h ⊢
  split at h
  · cases h
  · rename_i hgood
    simp only [Bool.or_eq_true, not_or] at hgood
    obtain ⟨⟨⟨hempty, hlong⟩, -⟩, hbound⟩ := hgood
    rw [← h, if_neg]
    simp only [Bool.not_true, Bool.false_and, Bool.or_false, Bool.or_eq_true, not_or]
    exact ⟨⟨hempty, hlong⟩, hbound⟩

end NumberForm

/-! ## Addresses of the fourth version -/

/-- What addresses of the fourth version are written with. -/
def isQuad (c : Char) : Bool := (digit? 10 c).isSome || c == '.'

theorem readChar?_eq_some_iff {c : Char} {cs rest : List Char} :
    readChar? c cs = some rest ↔ cs = c :: rest := by
  cases cs with
  | nil => simp [readChar?]
  | cons d cs =>
    simp only [readChar?, Option.ite_none_right_eq_some, Option.some.injEq, List.cons.injEq,
      eq_comm (a := c)]

/-- A decimal part and the rest of them: with a dot in front, but for the first of four. -/
theorem readOctets?_succ_eq_some_iff {f : Form} {count value n : Nat} {cs rest : List Char} :
    readOctets? f (count + 1) value cs = some (n, rest) ↔
      ∃ body m after, cs = (if count = 3 then [] else ['.']) ++ body
        ∧ NumberForm.read? ⟨10, some 3, 256, f.leadingZeros⟩ body = some (m, after)
        ∧ readOctets? f count (256 * value + m) after = some (n, rest) := by
  have hlead : ∀ body, (if count = 3 then some cs else readChar? '.' cs) = some body
      ↔ cs = (if count = 3 then [] else ['.']) ++ body := by
    intro body
    split
    · simp
    · simp [readChar?_eq_some_iff]
  have hstep : readOctets? f (count + 1) value cs
      = (if count = 3 then some cs else readChar? '.' cs).bind fun body =>
        (NumberForm.read? ⟨10, some 3, 256, f.leadingZeros⟩ body).bind fun x =>
          readOctets? f count (256 * value + x.1) x.2 := by
    rw [readOctets?]
    split <;> rfl
  simp only [hstep, Option.bind_eq_some_iff, hlead, Prod.exists]
  constructor
  · rintro ⟨body, hbody, m, after, hnumber, hparts⟩
    exact ⟨body, m, after, hbody, hnumber, hparts⟩
  · rintro ⟨body, m, after, hbody, hnumber, hparts⟩
    exact ⟨body, hbody, m, after, hnumber, hparts⟩

/-- **Decimal parts** are read from digits and dots, whatever stops them. Where fewer than four are still
to be read, no digit comes first. -/
theorem exists_of_readOctets? {f : Form} {count value n : Nat} {cs rest : List Char}
    (hcount : count ≤ 4) (h : readOctets? f count value cs = some (n, rest)) :
    ∃ front, cs = front ++ rest ∧ (∀ c ∈ front, isQuad c = true)
      ∧ (count < 4 → ∀ rest', Stops 10 rest' → Stops 10 (front ++ rest'))
      ∧ ∀ rest', Stops 10 rest' → readOctets? f count value (front ++ rest') = some (n, rest') := by
  induction count generalizing value cs with
  | zero =>
    obtain ⟨rfl, rfl⟩ := Prod.mk.inj (Option.some.inj h)
    exact ⟨[], rfl, by simp, fun _ _ => id, fun _ _ => rfl⟩
  | succ count ih =>
    obtain ⟨body, m, after, rfl, hnumber, hparts⟩ := readOctets?_succ_eq_some_iff.mp h
    obtain ⟨digits, rfl, hdigits, -, -, hread⟩ := NumberForm.exists_of_read? hnumber
    obtain ⟨front, rfl, hfront, hstops, hrest⟩ := ih (by omega) hparts
    refine ⟨(if count = 3 then [] else ['.']) ++ digits ++ front, by simp, ?_, ?_, ?_⟩
    · intro c hc
      rw [List.append_assoc, List.mem_append, List.mem_append] at hc
      rcases hc with hc | hc | hc
      · split at hc
        · cases hc
        · rw [List.mem_singleton.mp hc]
          rfl
      · simp [isQuad, hdigits c hc]
      · exact hfront c hc
    · intro hless rest' _
      rw [if_neg (by omega)]
      exact stops_cons (by decide) _
    · intro rest' hrest'
      refine readOctets?_succ_eq_some_iff.mpr ⟨digits ++ (front ++ rest'), m, front ++ rest', by simp,
        hread _ (hstops (by omega) rest' hrest'), hrest rest' hrest'⟩

/-- A text of an address of the fourth version: it is read to the address, whatever stops it. -/
structure Reads4 (f : Form) (quad : List Char) (a : BitVec 32) : Prop where
  quads : ∀ c ∈ quad, isQuad c = true
  read : ∀ rest, Stops 10 rest → read4? f (quad ++ rest) = some (a, rest)

/-- **An address of the fourth version** is read from a text of it. -/
theorem reads4_of_read4? {f : Form} {cs rest : List Char} {a : BitVec 32}
    (h : read4? f cs = some (a, rest)) : ∃ quad, cs = quad ++ rest ∧ Reads4 f quad a := by
  obtain ⟨⟨n, rest⟩, hparts, hx⟩ := Option.map_eq_some_iff.mp h
  obtain ⟨rfl, rfl⟩ := Prod.mk.inj hx
  obtain ⟨quad, rfl, hquads, -, hread⟩ := exists_of_readOctets? (Nat.le_refl 4) hparts
  refine ⟨quad, rfl, hquads, fun rest' hrest' => ?_⟩
  rw [read4?, hread rest' hrest']
  rfl

/-- A text is one of an address of the fourth version if it is read to it when nothing follows. -/
theorem reads4_iff {f : Form} {quad : List Char} {a : BitVec 32} :
    Reads4 f quad a ↔ read4? f quad = some (a, []) := by
  constructor
  · intro h
    have hread := h.read [] (stops_nil 10)
    rwa [List.append_nil] at hread
  · intro h
    obtain ⟨quad', hquad, hreads⟩ := reads4_of_read4? h
    rwa [hquad, List.append_nil]

/-- There is no address of the fourth version where there is no digit. -/
theorem read4?_of_stops {f : Form} {cs : List Char} (h : Stops 10 cs) : read4? f cs = none := by
  cases hr : read4? f cs with
  | none => rfl
  | some x =>
    obtain ⟨n, hparts, -⟩ := Option.map_eq_some_iff.mp hr
    obtain ⟨cs, m, after, rfl, hnumber, -⟩ := readOctets?_succ_eq_some_iff.mp hparts
    rw [NumberForm.read?_of_stops h] at hnumber
    cases hnumber

theorem readOctets?_lax {count value : Nat} {cs : List Char} {x : Nat × List Char}
    (h : readOctets? .strict count value cs = some x) : readOctets? .lax count value cs = some x := by
  induction count generalizing value cs with
  | zero => exact h
  | succ count ih =>
    obtain ⟨body, m, after, hbody, hnumber, hparts⟩ := readOctets?_succ_eq_some_iff.mp h
    exact readOctets?_succ_eq_some_iff.mpr
      ⟨body, m, after, hbody, NumberForm.read?_leadingZeros hnumber, ih hparts⟩

/-- A text without needless zeros is one where these are allowed, too. -/
theorem Reads4.lax {quad : List Char} {a : BitVec 32} (h : Reads4 .strict quad a) :
    Reads4 .lax quad a := by
  refine ⟨h.quads, fun rest hrest => ?_⟩
  obtain ⟨x, hparts, hx⟩ := Option.map_eq_some_iff.mp (h.read rest hrest)
  rw [read4?, readOctets?_lax hparts, Option.map_some, hx]

theorem isDigit_of_digit? {c : Char} (h : (digit? 10 c).isSome) : c.isDigit = true := by
  by_contra hd
  simp only [digit?, if_neg hd] at h
  -- a letter is worth ten or more
  split at h
  · rw [Option.filter_some, if_neg (by rw [decide_eq_true_eq]; omega)] at h
    cases h
  · split at h
    · rw [Option.filter_some, if_neg (by rw [decide_eq_true_eq]; omega)] at h
      cases h
    · cases h

/-- Digits and dots are no blanks. -/
theorem isBlank_of_isQuad {c : Char} (h : isQuad c = true) : Text.isBlank c = false := by
  rcases (Bool.or_eq_true _ _).mp h with hdigit | hdot
  · have hd := isDigit_of_digit? hdigit
    simp only [Char.isDigit, Bool.and_eq_true, decide_eq_true_eq] at hd
    have hlow : 48 ≤ c.toNat := UInt32.le_iff_toNat_le.mp hd.1
    have hhigh : c.toNat ≤ 57 := UInt32.le_iff_toNat_le.mp hd.2
    simp only [Text.isBlank, CodePoints.contains, CodePoints.whiteSpace, List.any_cons, List.any_nil,
      Bool.or_false, Bool.or_eq_false_iff, Bool.and_eq_false_iff, decide_eq_false_iff_not]
    omega
  · rw [beq_iff_eq.mp hdot]
    decide

theorem Reads4.isBlank_eq {f : Form} {quad : List Char} {a : BitVec 32} (h : Reads4 f quad a) :
    ∀ c ∈ quad, Text.isBlank c = false :=
  fun c hc => isBlank_of_isQuad (h.quads c hc)

/-! ## Addresses of the sixth version -/

/-- What stands before an address of the fourth version in the text of a mapped one. -/
def mark : List Char := [':', ':', 'f', 'f', 'f', 'f', ':']

theorem read4?_mark {f : Form} {cs : List Char} : read4? f (mark ++ cs) = none :=
  read4?_of_stops (stops_cons (by decide) _)

theorem isBlank_of_mem_mark : ∀ c ∈ mark, Text.isBlank c = false := by
  have hall : mark.all (fun c => !Text.isBlank c) = true := by decide
  simpa using hall

theorem Reads4.isBlank_mark {f : Form} {quad : List Char} {a : BitVec 32} (h : Reads4 f quad a) :
    ∀ c ∈ mark ++ quad, Text.isBlank c = false :=
  List.forall_mem_append.mpr ⟨isBlank_of_mem_mark, h.isBlank_eq⟩

/-- Groups end with an address of the fourth version that comes first. -/
theorem readGroups_of_read4? {f : Form} {room : Nat} {cs rest : List Char} {a : BitVec 32}
    (h : read4? f cs = some (a, rest)) :
    readGroups f true (room + 2) cs = ([a.toNat / 65536, a.toNat % 65536], true, rest) := by
  simp only [readGroups, if_true, if_neg (Nat.succ_ne_zero room), h]

/-- An address of the fourth version is none of the sixth. -/
theorem read6?_of_read4? {f : Form} {cs : List Char} {x : BitVec 32 × List Char}
    (h : read4? f cs = some x) : read6? f cs = none := by
  obtain ⟨a, rest⟩ := x
  simp [read6?, readGroups_of_read4? h]

/-- The groups behind the empty run of a mapped address. -/
theorem readGroups_mark {f : Form} {room : Nat} {cs rest : List Char} {a : BitVec 32}
    (h : read4? f cs = some (a, rest)) :
    readGroups f true (room + 3) ('f' :: 'f' :: 'f' :: 'f' :: ':' :: cs)
      = ([0xffff, a.toNat / 65536, a.toNat % 65536], true, rest) := by
  have hnone : read4? f ('f' :: 'f' :: 'f' :: 'f' :: ':' :: cs) = none :=
    read4?_of_stops (stops_cons (by decide) _)
  have hgroup : NumberForm.read? ⟨16, some 4, 65536, true⟩ ('f' :: 'f' :: 'f' :: 'f' :: ':' :: cs)
      = some (0xffff, ':' :: cs) := rfl
  have hnext : readGroups f false (room + 2) (':' :: cs)
      = ([a.toNat / 65536, a.toNat % 65536], true, rest) := by
    simp [readGroups, readChar?, h]
  rw [readGroups]
  simp only [if_true, if_neg (Nat.succ_ne_zero (room + 1)), hnone, hgroup, hnext]

theorem ofGroups_mapped (a : BitVec 32) :
    ofGroups [0, 0, 0, 0, 0, 0xffff, a.toNat / 65536, a.toNat % 65536] = mapped a := by
  have ha := a.isLt
  refine BitVec.eq_of_toNat_eq ?_
  rw [toNat_mapped, ofGroups, BitVec.toNat_ofNat]
  simp only [List.foldl_cons, List.foldl_nil]
  omega

/-- **Behind the mark** an address of the fourth version is read to the mapped one. -/
theorem read6?_mark {f : Form} {cs rest : List Char} {a : BitVec 32}
    (h : read4? f cs = some (a, rest)) : read6? f (mark ++ cs) = some (mapped a, rest) := by
  have hfront : readGroups f true 8 (mark ++ cs) = ([], false, mark ++ cs) := by
    have hgroup : NumberForm.read? ⟨16, some 4, 65536, true⟩ (mark ++ cs) = none :=
      NumberForm.read?_of_stops (stops_cons (by decide) _)
    simp only [readGroups, if_true, read4?_mark, hgroup, ite_self]
  obtain ⟨room, hroom⟩ : ∃ room, 8 - 0 - (if f.emptyRun then 0 else 1) = room + 3 := by
    cases f.emptyRun
    · exact ⟨4, rfl⟩
    · exact ⟨5, rfl⟩
  have htail := @readGroups_mark f room cs rest a h
  rw [← hroom] at htail
  simp only [read6?, hfront]
  simp only [mark, List.cons_append, List.nil_append, List.length_nil, htail]
  rw [if_neg (by decide), if_neg (by decide), ← ofGroups_mapped]
  rfl

/-! ## Addresses that stand alone -/

/-- A text is read to an address of the fourth version if it is a text of it. -/
theorem read?_eq_v4_iff {quad : List Char} {a : BitVec 32} :
    read? (String.ofList quad) = some (.v4 a) ↔ Reads4 .strict quad a := by
  unfold read? readFront?
  rw [String.toList_ofList]
  constructor
  · intro h
    cases hr : read4? .strict quad with
    | none =>
      rw [hr] at h
      cases hr6 : read6? .strict quad with
      | none =>
        rw [hr6] at h
        cases h
      | some x =>
        obtain ⟨b, rest⟩ := x
        rw [hr6] at h
        cases rest with
        | nil => cases h
        | cons c rest => cases h
    | some x =>
      obtain ⟨b, rest⟩ := x
      rw [hr] at h
      cases rest with
      | nil =>
        obtain rfl : b = a := by simpa using h
        exact reads4_iff.mpr hr
      | cons c rest => cases h
  · intro h
    rw [reads4_iff.mp h]

/-- Behind the mark it is read to the mapped address. -/
theorem Reads4.read?_mark {quad : List Char} {a : BitVec 32} (h : Reads4 .strict quad a) :
    read? (String.ofList (mark ++ quad)) = some (.v6 (mapped a)) := by
  unfold read? readFront?
  rw [String.toList_ofList, read4?_mark, read6?_mark (reads4_iff.mp h)]
  rfl

end Address

/-! ## Networks -/

namespace Network

open Address (Reads4 mark mapped)

variable {quad ds : List Char} {a : BitVec 32} {n : Nat}

theorem stops_slash : Address.Stops 10 ('/' :: ds) := Address.stops_cons (by decide) ds

/-- A network of the fourth version in writing. -/
theorem readPrefixed?_quad {hn : n ≤ 32} (h : Reads4 .lax quad a)
    (hl : readLength? 2 32 ('/' :: ds) = some ⟨n, hn⟩) :
    readPrefixed? (String.ofList (quad ++ '/' :: ds)) = some (.v4 a n hn) := by
  simp [readPrefixed?, h.read _ stops_slash, hl]

/-- A mapped network in writing. -/
theorem readPrefixed?_mark {hn : n ≤ 128} (h : Reads4 .lax quad a)
    (hl : readLength? 3 128 ('/' :: ds) = some ⟨n, hn⟩) :
    readPrefixed? (String.ofList (mark ++ quad ++ '/' :: ds)) = some (.v6 (mapped a) n hn) := by
  simp [readPrefixed?, Address.read4?_mark, Address.read6?_mark (h.read _ stops_slash), hl]

/-- An address of the fourth version that stands alone is a network of one host. -/
theorem read?_quad (h : Reads4 .strict quad a) :
    read? (String.ofList quad) = some (.v4 a 32 (Nat.le_refl 32)) := by
  have hread := Address.reads4_iff.mp h.lax
  have hnone : readPrefixed? (String.ofList quad) = none := by
    simp [readPrefixed?, hread, Address.read6?_of_read4? hread, readLength?, Address.readChar?]
  rw [read?, hnone, Address.read?_eq_v4_iff.mpr h]
  rfl

/-- So is a mapped one. -/
theorem read?_mark (h : Reads4 .strict quad a) :
    read? (String.ofList (mark ++ quad)) = some (.v6 (mapped a) 128 (Nat.le_refl 128)) := by
  have hread := Address.reads4_iff.mp h.lax
  have hnone : readPrefixed? (String.ofList (mark ++ quad)) = none := by
    simp [readPrefixed?, Address.read4?_mark, Address.read6?_mark hread, readLength?, Address.readChar?]
  rw [read?, hnone, h.read?_mark]
  rfl

/-- **A network of the fourth version** is read from a text of an address, alone or with a length. -/
theorem exists_quad_of_read? {s : String} {hn : n ≤ 32} (h : read? s = some (.v4 a n hn)) :
    Reads4 .strict s.toList a
    ∨ ∃ quad ds, s.toList = quad ++ '/' :: ds ∧ Reads4 .lax quad a
        ∧ readLength? 2 32 ('/' :: ds) = some ⟨n, hn⟩ := by
  rw [read?, Option.orElse_eq_some] at h
  rcases h with hprefixed | ⟨-, hhost⟩
  · right
    simp only [readPrefixed?, Option.orElse_eq_some, Option.bind_eq_bind, Option.bind_eq_some_iff,
      Option.pure_def] at hprefixed
    rcases hprefixed with ⟨⟨b, cs⟩, hread, ⟨k, hk⟩, hlength, hnetwork⟩
        | ⟨-, ⟨b, cs⟩, -, ⟨k, hk⟩, -, hnetwork⟩
    · cases hnetwork
      obtain ⟨quad, hquad, hreads⟩ := Address.reads4_of_read4? hread
      obtain ⟨ds, rfl⟩ : ∃ ds, cs = '/' :: ds := by
        obtain ⟨ds, hds, -⟩ := Option.bind_eq_some_iff.mp hlength
        exact ⟨ds, Address.readChar?_eq_some_iff.mp hds⟩
      exact ⟨quad, ds, hquad, hreads, hlength⟩
    · cases hnetwork
  · left
    obtain ⟨x, hx, hhost⟩ := Option.map_eq_some_iff.mp hhost
    cases x with
    | v4 b =>
      cases hhost
      exact Address.read?_eq_v4_iff.mp (by rw [String.ofList_toList]; exact hx)
    | v6 b => cases hhost

/-! ## Lengths -/

/-- The length of a mapped network, written in decimal digits. -/
theorem readLength?_digits (hn : n ≤ 32) :
    readLength? 3 128 ('/' :: Nat.toDigits 10 (96 + n)) = some ⟨96 + n, by omega⟩ := by
  have hall : ∀ k < 33, (readLength? 3 128 ('/' :: Nat.toDigits 10 (96 + k))).map Subtype.val
      = some (96 + k) := by
    decide +kernel
  obtain ⟨x, hx, hval⟩ := Option.map_eq_some_iff.mp (hall n (by omega))
  rw [hx]
  exact congrArg some (Subtype.ext hval)

/-- A length is written without blanks. -/
theorem isBlank_of_readLength? {digits most : Nat} {x : { n : Nat // n ≤ most }}
    (h : readLength? digits most ('/' :: ds) = some x) :
    ∀ c ∈ '/' :: ds, Text.isBlank c = false := by
  obtain ⟨⟨k, rest⟩, hread, hrest⟩ := Option.bind_eq_some_iff.mp h
  obtain ⟨front, rfl, hfront, -⟩ := Address.NumberForm.exists_of_read? hread
  cases rest with
  | nil =>
    rw [List.append_nil]
    refine List.forall_mem_cons.mpr ⟨by decide, fun c hc => Address.isBlank_of_isQuad ?_⟩
    simp [Address.isQuad, hfront c hc]
  | cons c rest => cases hrest

end Network

end Turnstile
