/-!
# Double precision numbers, taken apart and put together

A double is read as a sign and a dyadic rational `mantissa * 2 ^ exponent`, so that every later
question about it (its shortest text, the nanoseconds nearest to it) is one about `Nat`.

* `Binary.view`: the parts of a double.
* `Binary.ofRatio`: the double nearest to a quotient, a tie going to the even mantissa.
-/

namespace Turnstile

/-- What a double stands for. A finite one is `mantissa * 2 ^ exponent` with the sign given. -/
inductive Binary where
  | notANumber
  | infinite (negative : Bool)
  | finite (negative : Bool) (mantissa : Nat) (exponent : Int)
  deriving DecidableEq, Repr

namespace Binary

/-- The least exponent a mantissa can have; all subnormal doubles have it. -/
def leastExponent : Int := -1074

/-- One more than the greatest mantissa. -/
def mantissaBound : Nat := 9007199254740992

/-- The least mantissa of a double that is not subnormal. -/
def leastNormal : Nat := 4503599627370496

/-- The parts of the double with the given bits. -/
def ofBits (bits : UInt64) : Binary :=
  let negative := bits >>> 63 == 1
  let biased := ((bits >>> 52) &&& 0x7ff).toNat
  let fraction := (bits &&& 0xfffffffffffff).toNat
  if biased = 0x7ff then
    if fraction = 0 then .infinite negative else .notANumber
  else if biased = 0 then .finite negative fraction leastExponent
  else .finite negative (leastNormal + fraction) (biased - 1075)

/-- The parts of a double. -/
def view (x : Float) : Binary := ofBits x.toBits

/-! ## Rounding a quotient -/

/-- The quotient `num / den`, rounded to the nearest whole number; a half goes to the even one. -/
def divNearest (num den : Nat) : Nat :=
  let q := num / den
  let twice := 2 * (num % den)
  if twice < den then q
  else if den < twice then q + 1
  else q + q % 2

/-- The quotient `num / den` in units of `2 ^ exponent`, rounded to the nearest. -/
def inUnits (num den : Nat) (exponent : Int) : Nat :=
  if exponent < 0 then divNearest (num * Nat.pow 2 exponent.natAbs) den
  else divNearest num (den * Nat.pow 2 exponent.natAbs)

/-- The exponent with which the quotient has 53 bits, or the least one. -/
def exponentFor (num den : Nat) : Int :=
  let guess : Int := (num.log2 : Int) - (den.log2 : Int) - 53
  let fits (e : Int) : Bool :=
    if e < 0 then num * Nat.pow 2 e.natAbs < den * mantissaBound
    else num < den * Nat.pow 2 e.natAbs * mantissaBound
  max leastExponent (if fits guess then guess else guess + 1)

/-- The bits of the positive double with the given mantissa and exponent. A mantissa that rounding
carried to `2 ^ 53` is that of the next binade, and too great an exponent gives infinity. -/
def toBits (mantissa : Nat) (exponent : Int) : UInt64 :=
  let (mantissa, exponent) :=
    if mantissa = mantissaBound then (leastNormal, exponent + 1) else (mantissa, exponent)
  if mantissa < leastNormal then UInt64.ofNat mantissa
  else
    let biased := (exponent + 1075).toNat
    if 0x7ff ≤ biased then 0x7ff0000000000000
    else UInt64.ofNat (biased * leastNormal + (mantissa - leastNormal))

/-- The double nearest to `num / den`. -/
def ofRatio (negative : Bool) (num den : Nat) : Float :=
  let magnitude :=
    if num = 0 then 0
    else
      let e := exponentFor num den
      toBits (inUnits num den e) e
  Float.ofBits (if negative then magnitude ||| 0x8000000000000000 else magnitude)

/-- Not a number, positive. -/
def nan : Float := Float.ofBits 0x7ff8000000000000

/-- Infinity with the given sign. -/
def infinity (negative : Bool) : Float :=
  Float.ofBits (if negative then 0xfff0000000000000 else 0x7ff0000000000000)

end Binary

end Turnstile
