/-!
# Text in octets

Reading octets that are meant to be text. Where they are not, each longest run that could have begun a
character stands as one replacement character.
-/

namespace Turnstile.Text

/-- The character that stands for octets that are no text. -/
def replacement : Char := '\ufffd'

/-- How many octets continue a character that a first octet begins, the first octet's own bits, and the
least and the greatest octet that may come second. -/
def leadOctet? (b : Nat) : Option (Nat × Nat × Nat × Nat) :=
  if b < 0x80 then some (0, b, 0, 0)
  else if b < 0xc2 then none
  else if b < 0xe0 then some (1, b - 0xc0, 0x80, 0xbf)
  else if b < 0xf0 then
    some (2, b - 0xe0, if b = 0xe0 then 0xa0 else 0x80, if b = 0xed then 0x9f else 0xbf)
  else if b < 0xf5 then
    some (3, b - 0xf0, if b = 0xf0 then 0x90 else 0x80, if b = 0xf4 then 0x8f else 0xbf)
  else none

/-- Continues a character: its number if it is complete, and the octets behind it. -/
def continueChar : Nat → Nat → Nat → Nat → List Nat → Option Nat × List Nat
  | 0, n, _, _, bs => (some n, bs)
  | _ + 1, _, _, _, [] => (none, [])
  | k + 1, n, lo, hi, b :: bs =>
    if lo ≤ b ∧ b ≤ hi then continueChar k (64 * n + b % 64) 0x80 0xbf bs else (none, b :: bs)

/-- The characters that octets stand for. -/
def decodeOctets (bs : List UInt8) : List Char := go bs.length (bs.map UInt8.toNat)
where
  go : Nat → List Nat → List Char
    | 0, _ => []
    | _ + 1, [] => []
    | fuel + 1, b :: bs =>
      match leadOctet? b with
      | none => replacement :: go fuel bs
      | some (k, n, lo, hi) =>
        match continueChar k n lo hi bs with
        | (some n, rest) => Char.ofNat n :: go fuel rest
        | (none, rest) => replacement :: go fuel rest

end Turnstile.Text
