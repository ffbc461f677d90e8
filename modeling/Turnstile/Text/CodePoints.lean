/-!
# Sets of code points

A set is a list of ranges, ascending and with a gap between any two, so that equal sets are equal
lists. `CodePoints.ofRanges` brings any list of ranges into that form, and the set operations are
built from it. Complements are taken among the scalar values: no set holds a surrogate.

Tables of standard properties are written as rows of hexadecimal tokens: `41` is one code point,
`41-5A` a range, and `100-12E/2` every second code point of a range.
-/

namespace Turnstile

/-- A set of code points, as the ranges `(first, last)` it is made of. -/
structure CodePoints where
  ranges : List (Nat × Nat)
  deriving DecidableEq, Repr

namespace CodePoints

/-- The greatest code point. -/
def last : Nat := 0x10ffff

/-- No code point. -/
def empty : CodePoints := ⟨[]⟩

/-- Joins ranges, ascending by their starts, that overlap or touch. -/
def join : List (Nat × Nat) → List (Nat × Nat)
  | [] => []
  | r :: rs => go r rs
where
  go (current : Nat × Nat) : List (Nat × Nat) → List (Nat × Nat)
    | [] => [current]
    | r :: rs =>
      if r.1 ≤ current.2 + 1 then go (current.1, max current.2 r.2) rs else current :: go r rs

/-- The set of all points in the given ranges. A range that ends before it starts has none. -/
def ofRanges (rs : List (Nat × Nat)) : CodePoints :=
  ⟨join ((rs.filter fun r => r.1 ≤ r.2).mergeSort fun a b => a.1 ≤ b.1)⟩

/-- One code point. -/
def single (c : Nat) : CodePoints := ⟨[(c, c)]⟩

/-- Whether a code point is in the set. -/
def contains (s : CodePoints) (c : Nat) : Bool := s.ranges.any fun r => r.1 ≤ c && c ≤ r.2

/-- Whether no point of the set lies beyond `bound`. -/
def within (s : CodePoints) (bound : Nat) : Bool := s.ranges.all fun r => r.2 ≤ bound

/-- The points of either set. -/
def union (a b : CodePoints) : CodePoints := ofRanges (a.ranges ++ b.ranges)

/-- The gaps between ascending ranges, from `start` up to `bound`. -/
def gaps (start bound : Nat) : List (Nat × Nat) → List (Nat × Nat)
  | [] => if start ≤ bound then [(start, bound)] else []
  | (a, b) :: rs =>
    if start < a then (start, a - 1) :: gaps (b + 1) bound rs else gaps (b + 1) bound rs

/-- The scalar values that are not in the set. -/
def complement (s : CodePoints) : CodePoints :=
  ⟨gaps 0 last (s.union ⟨[(0xd800, 0xdfff)]⟩).ranges⟩

/-- The bytes that are not in a set of bytes. -/
def complementBytes (s : CodePoints) : CodePoints := ⟨gaps 0 0xff s.ranges⟩

/-- The points of both sets. -/
def inter (a b : CodePoints) : CodePoints :=
  ofRanges (a.ranges.flatMap fun r => b.ranges.map fun s => (max r.1 s.1, min r.2 s.2))

/-- The points of the first set that are not in the second. -/
def diff (a b : CodePoints) : CodePoints := a.inter ⟨gaps 0 last b.ranges⟩

/-- The points of exactly one of the two sets. -/
def symmDiff (a b : CodePoints) : CodePoints := (a.diff b).union (b.diff a)

/-- All scalar values. -/
def all : CodePoints := empty.complement

/-! ## Table rows -/

/-- The value of a hexadecimal digit in capitals. -/
def hexDigit (c : Char) : Nat :=
  if c ≤ '9' then c.toNat - '0'.toNat else c.toNat - 'A'.toNat + 10

/-- The value of a hexadecimal numeral in capitals. -/
def hexValue (cs : List Char) : Nat := cs.foldl (fun n c => 16 * n + hexDigit c) 0

/-- Splits a list at every occurrence of a separator. -/
def splitAt (sep : Char) : List Char → List (List Char)
  | [] => [[]]
  | c :: cs =>
    let rest := splitAt sep cs
    if c = sep then [] :: rest
    else match rest with
      | [] => [[c]]
      | w :: ws => (c :: w) :: ws

/-- The ranges of one token. -/
def ofToken (token : List Char) : List (Nat × Nat) :=
  match splitAt '-' token with
  | [a] => [(hexValue a, hexValue a)]
  | [a, b] =>
    match splitAt '/' b with
    | [b, step] =>
      let first := hexValue a
      let step := hexValue step
      (List.range ((hexValue b - first) / step + 1)).map fun i =>
        (first + i * step, first + i * step)
    | _ => [(hexValue a, hexValue b)]
  | _ => []

/-- The set that rows of tokens describe. -/
def ofRows (rows : List String) : CodePoints :=
  ofRanges (rows.flatMap fun row => (splitAt ' ' row.toList).flatMap ofToken)

end CodePoints

end Turnstile
