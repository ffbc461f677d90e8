import Turnstile.Decimal.Shortest

/-!
# Numerals

Writing a double in the two notations the library prints, and reading one.

* `Decimal.plain` is positional throughout: `0.0000001`, `-0`, `100`.
* `Decimal.marked` always shows that the number is no integer (`100.0`) and turns to an exponent
  below `10 ^ -4` and from `10 ^ 16` on (`1e-7`, `1.5e300`).
* `Decimal.read?` takes an optional sign and then digits with an optional point and exponent, or one
  of the words for infinity and not-a-number in any case.
-/

namespace Turnstile.Decimal

/-! ## Writing -/

/-- The digits of a whole number without the zeros at its end. -/
def significant (n : Nat) : List Char :=
  ((Nat.toDigits 10 n).reverse.dropWhile (· == '0')).reverse

/-- Positional text; `fraction` is what stands for an empty fractional part. -/
def positional (d : Decimal) (fraction : String) : String :=
  let ds := significant d.digits
  if d.point ≤ 0 then
    "0." ++ String.ofList (List.replicate d.point.natAbs '0' ++ ds)
  else
    let p := d.point.toNat
    if ds.length ≤ p then String.ofList (ds ++ List.replicate (p - ds.length) '0') ++ fraction
    else String.ofList (ds.take p) ++ "." ++ String.ofList (ds.drop p)

/-- Text with one digit before the point and an exponent. -/
def exponential (d : Decimal) : String :=
  let ds := significant d.digits
  let tail := ds.drop 1
  String.ofList (ds.take 1) ++ (if tail.isEmpty then "" else "." ++ String.ofList tail)
    ++ "e" ++ toString (d.point - 1)

/-- The part that all notations share: sign, words and zero. -/
def written (x : Float) (zero : String) (text : Decimal → String) : String :=
  let signed (negative : Bool) (s : String) := if negative then "-" ++ s else s
  match Binary.view x with
  | .notANumber => "NaN"
  | .infinite negative => signed negative "inf"
  | .finite negative 0 _ => signed negative zero
  | .finite negative m e => signed negative (text (shortest m e))

/-- Positional notation, with no fraction for a whole number. -/
def plain (x : Float) : String := written x "0" (positional · "")

/-- Notation that always marks the number as no integer. -/
def marked (x : Float) : String :=
  written x "0.0" fun d => if -3 ≤ d.point ∧ d.point ≤ 16 then positional d ".0" else exponential d

/-! ## Reading -/

/-- The value of a run of digits, continued from `acc`. -/
def digitsValue (acc : Nat) (ds : List Char) : Nat :=
  ds.foldl (fun n c => 10 * n + (c.toNat - '0'.toNat)) acc

/-- A run of digits and what follows it. -/
def spanDigits (cs : List Char) : List Char × List Char :=
  (cs.takeWhile Char.isDigit, cs.dropWhile Char.isDigit)

/-- A whole number with an optional sign, and nothing else. -/
def exponent? (cs : List Char) : Option Int :=
  let unsigned (ds : List Char) : Option Nat :=
    if ds.isEmpty || !ds.all Char.isDigit then none else some (digitsValue 0 ds)
  match cs with
  | '+' :: ds => (unsigned ds).map Int.ofNat
  | '-' :: ds => (unsigned ds).map fun n => -Int.ofNat n
  | ds => (unsigned ds).map Int.ofNat

/-- The double nearest to `digits * 10 ^ exponent`. Exponents far outside the range of doubles are
decided by their size alone. -/
def scaled (negative : Bool) (digits : Nat) (exponent : Int) : Float :=
  let magnitude := (digitCount digits : Int) + exponent
  if digits = 0 ∨ magnitude < -400 then Binary.ofRatio negative 0 1
  else if 400 < magnitude then Binary.infinity negative
  else Binary.ofRatio negative (digits * Nat.pow 10 exponent.toNat)
    (Nat.pow 10 (-exponent).toNat)

/-- A numeral without its sign. -/
def magnitude? (negative : Bool) (cs : List Char) : Option Float :=
  let word := String.ofList (cs.map Char.toLower)
  if word = "inf" ∨ word = "infinity" then some (Binary.infinity negative)
  else if word = "nan" then some Binary.nan
  else
    let (whole, rest) := spanDigits cs
    let (fraction, rest) := match rest with
      | '.' :: rest => spanDigits rest
      | rest => ([], rest)
    if whole.isEmpty && fraction.isEmpty then none
    else
      let digits := digitsValue (digitsValue 0 whole) fraction
      let shift : Int := fraction.length
      match rest with
      | [] => some (scaled negative digits (-shift))
      | e :: rest =>
        if e = 'e' ∨ e = 'E' then
          (exponent? rest).map fun x => scaled negative digits (x - shift)
        else none

/-- Reads a numeral. -/
def read? (s : String) : Option Float :=
  match s.toList with
  | '-' :: cs => magnitude? true cs
  | '+' :: cs => magnitude? false cs
  | cs => magnitude? false cs

end Turnstile.Decimal
