import Turnstile.Word

/-!
# Addresses

Internet addresses of both families, their text, and the endpoints made of an address and a port.

* `Address.read?`: the strict text form, without leading zeros.
* `Address.text`: the canonical text, with the longest run of zero groups left out.
* `Address.canonical`: an address of the fourth version written as one of the sixth is taken for what
  it is.
-/

namespace Turnstile

/-- An address, as the number it is. -/
inductive Address where
  | v4 (value : BitVec 32)
  | v6 (value : BitVec 128)
  deriving DecidableEq, Repr

namespace Address

/-- The address of the sixth version that stands for one of the fourth. -/
def mapped (a : BitVec 32) : BitVec 128 := (0xffff#96 ++ a : BitVec 128)

/-- The address of the fourth version that one of the sixth stands for. -/
def unmapped? (a : BitVec 128) : Option (BitVec 32) :=
  if a.extractLsb' 32 96 = 0xffff#96 then some (a.extractLsb' 0 32) else none

/-- The address with a mapped one taken for the address it stands for. -/
def canonical : Address → Address
  | .v4 a => .v4 a
  | .v6 a =>
    match unmapped? a with
    | some b => .v4 b
    | none => .v6 a

/-- A mapped address stands for the one it was made from. -/
@[simp] theorem unmapped?_mapped (a : BitVec 32) : unmapped? (mapped a) = some a := by
  unfold unmapped? mapped
  have h : (0xffff#96 ++ a).extractLsb' 32 96 = 0xffff#96 := BitVec.extractLsb'_append_eq_left
  have h' : (0xffff#96 ++ a).extractLsb' 0 32 = a := BitVec.extractLsb'_append_eq_right
  rw [if_pos h, h']

/-! ## Writing -/

/-- The four bytes of an address of the fourth version. -/
def octets (a : BitVec 32) : List Nat :=
  [3, 2, 1, 0].map fun i => a.toNat / Nat.pow 256 i % 256

/-- The eight groups of an address of the sixth version. -/
def groups (a : BitVec 128) : List Nat :=
  [7, 6, 5, 4, 3, 2, 1, 0].map fun i => a.toNat / Nat.pow 65536 i % 65536

/-- The text of an address of the fourth version. -/
def text4 (a : BitVec 32) : String := ".".intercalate ((octets a).map toString)

/-- Groups in hexadecimal between colons. -/
def hexGroups (gs : List Nat) : String :=
  ":".intercalate (gs.map fun g => String.ofList (Nat.toDigits 16 g))

/-- The length of the run of zeros at the beginning. -/
def zeroRun (gs : List Nat) : Nat := (gs.takeWhile (· = 0)).length

/-- Where the longest run of zeros is, the first of several, and how long it is. -/
def longestZeros (gs : List Nat) : Nat × Nat :=
  (List.range gs.length).foldl
    (fun best i =>
      let n := zeroRun (gs.drop i)
      if best.2 < n then (i, n) else best)
    (0, 0)

/-- The text of an address of the sixth version. -/
def text6 (a : BitVec 128) : String :=
  match unmapped? a with
  | some b => "::ffff:" ++ text4 b
  | none =>
    let gs := groups a
    let (start, length) := longestZeros gs
    if length ≤ 1 then hexGroups gs
    else hexGroups (gs.take start) ++ "::" ++ hexGroups (gs.drop (start + length))

/-- The canonical text of an address. -/
def text : Address → String
  | .v4 a => text4 a
  | .v6 a => text6 a

/-! ## Reading -/

/-- The value of a digit in the given base. -/
def digit? (base : Nat) (c : Char) : Option Nat :=
  let value :=
    if c.isDigit then some (c.toNat - '0'.toNat)
    else if 'a' ≤ c ∧ c ≤ 'z' then some (c.toNat - 'a'.toNat + 10)
    else if 'A' ≤ c ∧ c ≤ 'Z' then some (c.toNat - 'A'.toNat + 10)
    else none
  value.filter (· < base)

/-- The digits at the beginning of a text, and what follows them. -/
def spanDigits (base : Nat) : List Char → List Nat × List Char
  | [] => ([], [])
  | c :: cs =>
    match digit? base c with
    | none => ([], c :: cs)
    | some d =>
      let (ds, rest) := spanDigits base cs
      (d :: ds, rest)

/-- How numbers in an address are written: the base, how many digits at most, the first value that is
too great, and whether zeros may lead. -/
structure NumberForm where
  base : Nat
  digits : Option Nat
  bound : Nat
  leadingZeros : Bool

/-- Reads a number at the beginning of a text. -/
def NumberForm.read? (f : NumberForm) (cs : List Char) : Option (Nat × List Char) :=
  let (ds, rest) := spanDigits f.base cs
  let value := ds.foldl (fun n d => f.base * n + d) 0
  let tooLong := f.digits.any (· < ds.length)
  let badZero := !f.leadingZeros && ds.head? == some 0 && 1 < ds.length
  if ds.isEmpty || tooLong || badZero || f.bound ≤ value then none else some (value, rest)

/-- Reads one given character. -/
def readChar? (c : Char) : List Char → Option (List Char)
  | [] => none
  | d :: cs => if c = d then some cs else none

/-- What readers of addresses differ in: whether zeros may lead in a decimal part, and whether eight
groups may still leave room for an empty run of zeros. -/
structure Form where
  leadingZeros : Bool
  emptyRun : Bool

/-- The form of an address that stands alone. -/
def Form.strict : Form := ⟨false, false⟩

/-- The form of an address in front of a prefix length. -/
def Form.lax : Form := ⟨true, true⟩

/-- Reads the decimal parts of an address, each but the first after a dot. -/
def readOctets? (f : Form) : Nat → Nat → List Char → Option (Nat × List Char)
  | 0, value, cs => some (value, cs)
  | count + 1, value, cs => do
    let cs ← if count = 3 then some cs else readChar? '.' cs
    let (n, cs) ← NumberForm.read? ⟨10, some 3, 256, f.leadingZeros⟩ cs
    readOctets? f count (256 * value + n) cs

/-- Reads an address of the fourth version at the beginning of a text. -/
def read4? (f : Form) (cs : List Char) : Option (BitVec 32 × List Char) :=
  (readOctets? f 4 0 cs).map fun (n, cs) => (BitVec.ofNat 32 n, cs)

/-- Reads up to `room` groups, each but the first after a colon. The last two may be written as an
address of the fourth version, which ends the groups; the result tells whether they were. -/
def readGroups (f : Form) (first : Bool) : Nat → List Char → List Nat × Bool × List Char
  | 0, cs => ([], false, cs)
  | room + 1, cs =>
    match if first then some cs else readChar? ':' cs with
    | none => ([], false, cs)
    | some body =>
      match if room = 0 then none else read4? f body with
      | some (a, rest) => ([a.toNat / 65536, a.toNat % 65536], true, rest)
      | none =>
        match NumberForm.read? ⟨16, some 4, 65536, true⟩ body with
        | none => ([], false, cs)
        | some (g, rest) =>
          let (gs, embedded, rest) := readGroups f false room rest
          (g :: gs, embedded, rest)

/-- The address with the given eight groups. -/
def ofGroups (gs : List Nat) : BitVec 128 := BitVec.ofNat 128 (gs.foldl (fun n g => 65536 * n + g) 0)

/-- Reads an address of the sixth version at the beginning of a text. -/
def read6? (f : Form) (cs : List Char) : Option (BitVec 128 × List Char) :=
  let (head, embedded, rest) := readGroups f true 8 cs
  if head.length = 8 then some (ofGroups head, rest)
  else if embedded then none
  else
    match rest with
    | ':' :: ':' :: rest =>
      let room := 8 - head.length - if f.emptyRun then 0 else 1
      let (tail, _, rest) := readGroups f true room rest
      let zeros := List.replicate (8 - head.length - tail.length) 0
      some (ofGroups (head ++ zeros ++ tail), rest)
    | _ => none

/-- Reads an address at the beginning of a text. -/
def readFront? (f : Form) (cs : List Char) : Option (Address × List Char) :=
  match read4? f cs with
  | some (a, rest) => some (.v4 a, rest)
  | none => (read6? f cs).map fun (a, rest) => (.v6 a, rest)

/-- Reads a text that is an address and nothing else. -/
def read? (s : String) : Option Address :=
  match readFront? .strict s.toList with
  | some (a, []) => some a
  | _ => none

end Address

/-! ## Endpoints -/

/-- Where a connection comes from: an address, its zone if it has one, and a port. -/
structure Endpoint where
  address : Address
  zone : Nat := 0
  port : Nat
  deriving DecidableEq, Repr

namespace Endpoint

/-- The text of an endpoint, with brackets around an address of the sixth version. -/
def text (e : Endpoint) : String :=
  match e.address with
  | .v4 a => Address.text4 a ++ ":" ++ toString e.port
  | .v6 a =>
    let zone := if e.zone = 0 then "" else "%" ++ toString e.zone
    "[" ++ Address.text6 a ++ zone ++ "]:" ++ toString e.port

/-- Reads a port after its colon. -/
def readPort? (cs : List Char) : Option Nat := do
  let cs ← Address.readChar? ':' cs
  match ← Address.NumberForm.read? ⟨10, none, 65536, true⟩ cs with
  | (port, []) => some port
  | _ => none

/-- Reads the zone of an address, if there is one. -/
def readZone? : List Char → Option (Nat × List Char)
  | '%' :: cs => Address.NumberForm.read? ⟨10, none, Word.bound32, true⟩ cs
  | cs => some (0, cs)

/-- Reads an endpoint. -/
def read? (s : String) : Option Endpoint :=
  match s.toList with
  | '[' :: cs => do
    let (a, cs) ← Address.read6? .strict cs
    let (zone, cs) ← readZone? cs
    let cs ← Address.readChar? ']' cs
    return { address := .v6 a, zone, port := ← readPort? cs }
  | cs => do
    let (a, cs) ← Address.read4? .strict cs
    return { address := .v4 a, port := ← readPort? cs }

end Endpoint

end Turnstile
