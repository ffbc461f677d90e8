import Turnstile.Text.Blank

/-!
# Metadata

The headers of a request or a reply: entries of a name and a value, in the order in which they were
added; a name may occur several times. Names are kept in small letters. A name that ends in `-bin` has
binary values, which are kept as the base64 text that stands for them and never found as text.

* `Metadata.append`: adds an entry.
* `Metadata.text?`: the first value of a name, if it is readable.
-/

namespace Turnstile

/-- One header. The value is kept as it is sent. -/
structure Header where
  name : String
  value : List UInt8
  deriving DecidableEq, Repr

/-- The headers of a message. -/
structure Metadata where
  entries : List Header := []
  deriving DecidableEq, Repr

/-! ## Base64 -/

/-- The digit with the given value. -/
def base64Digit (n : Nat) : Char :=
  if n < 26 then Char.ofNat (0x41 + n)
  else if n < 52 then Char.ofNat (0x61 + (n - 26))
  else if n < 62 then Char.ofNat (0x30 + (n - 52))
  else if n = 62 then '+' else '/'

/-- The base64 text of some bytes, without padding. -/
def base64 : List UInt8 → List Char
  | [] => []
  | [a] =>
    let n := a.toNat * 16
    [base64Digit (n / 64), base64Digit (n % 64)]
  | [a, b] =>
    let n := (a.toNat * 256 + b.toNat) * 4
    [base64Digit (n / 4096), base64Digit (n / 64 % 64), base64Digit (n % 64)]
  | a :: b :: c :: rest =>
    let n := (a.toNat * 256 + b.toNat) * 256 + c.toNat
    base64Digit (n / 262144) :: base64Digit (n / 4096 % 64) :: base64Digit (n / 64 % 64)
      :: base64Digit (n % 64) :: base64 rest

/-! ## Headers -/

namespace Header

/-- Whether a name has binary values. -/
def isBinary (name : String) : Bool := "-bin".toList.isSuffixOf name.toList

/-- Whether a byte shows as a character. -/
def isShown (b : UInt8) : Bool := b == 9 || (0x20 ≤ b && b < 0x7f)

/-- The header with a name in any case and the given bytes. -/
def of (name : String) (bytes : List UInt8) : Header :=
  let name := Text.lowerAscii name
  if isBinary name then ⟨name, (base64 bytes).map fun c => UInt8.ofNat c.toNat⟩ else ⟨name, bytes⟩

/-- The value as text, if every byte shows. -/
def text? (h : Header) : Option String :=
  if h.value.all isShown then
    some (String.ofList (h.value.map fun b => Char.ofNat b.toNat))
  else none

end Header

namespace Metadata

/-- Adds a header at the end. -/
def append (m : Metadata) (h : Header) : Metadata := ⟨m.entries ++ [h]⟩

/-- Replaces all headers of a name by one. -/
def insert (m : Metadata) (h : Header) : Metadata :=
  ⟨m.entries.filter (fun e => e.name != h.name) ++ [h]⟩

/-- The first header of a name, which is given in small letters. -/
def find? (m : Metadata) (name : String) : Option Header :=
  m.entries.find? fun h => h.name = name

/-- The first value of a name, if the name is not one of binary values and the value is readable. -/
def text? (m : Metadata) (name : String) : Option String :=
  if Header.isBinary name then none else (m.find? name).bind Header.text?

end Metadata

end Turnstile
