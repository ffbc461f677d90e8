import Turnstile.Decimal.Binary

/-!
# The fewest digits that read back

`Decimal.shortest` gives the decimal numeral with the fewest digits that lies in the interval of
reals rounding to a double; of several it takes the nearest, and an exact tie goes up. The search
walks the decimal grids from coarse to fine and asks on each only for the two neighbours of the
value, because a grid with any point in the interval has one of those two in it.
-/

namespace Turnstile

/-- The positive number `0.d₁d₂d₃… * 10 ^ point`, with the digits `d₁d₂d₃…` written as a whole
number. -/
structure Decimal where
  digits : Nat
  point : Int
  deriving DecidableEq, Repr

namespace Decimal

/-- The reals that round to a double, as `low / scale`, `value / scale` and `high / scale`. -/
structure Interval where
  low : Nat
  value : Nat
  high : Nat
  scale : Nat
  closed : Bool

/-- The interval of `mantissa * 2 ^ exponent`. It is closed when the mantissa is even, and its lower
half is narrower where a binade begins. -/
def Interval.of (mantissa : Nat) (exponent : Int) : Interval :=
  let narrow := mantissa = Binary.leastNormal ∧ Binary.leastExponent < exponent
  let up := Nat.pow 2 (exponent - 2).toNat
  { low := (4 * mantissa - if narrow then 1 else 2) * up
    value := 4 * mantissa * up
    high := (4 * mantissa + 2) * up
    scale := Nat.pow 2 (2 - exponent).toNat
    closed := mantissa % 2 = 0 }

/-- Whether `n / d` rounds to the double. -/
def Interval.contains (i : Interval) (n d : Nat) : Bool :=
  let lower := i.low * d
  let upper := i.high * d
  let x := n * i.scale
  if i.closed then lower ≤ x && x ≤ upper else lower < x && x < upper

/-- The number of decimal digits of a positive number. -/
def digitCount (n : Nat) : Nat := (Nat.toDigits 10 n).length

/-- The decimal exponent `p` with `10 ^ (p - 1) ≤ num / den < 10 ^ p`. -/
def pointOf (num den : Nat) : Int :=
  let guess : Int := (digitCount num : Int) - (digitCount den : Int)
  let below (p : Int) : Bool :=
    if p < 0 then num * Nat.pow 10 p.natAbs < den else num < den * Nat.pow 10 p.natAbs
  if below guess then guess else guess + 1

/-- The grid point of `count` digits that stands for the double, if there is one. -/
def onGrid? (i : Interval) (point : Int) (count : Nat) : Option Nat :=
  -- Grid points are `k * 10 ^ (point - count)`; `num / den` counts the value in grid steps.
  let step := point - (count : Int)
  let stepUp := Nat.pow 10 step.toNat
  let stepDown := Nat.pow 10 (-step).toNat
  let num := i.value * stepDown
  let den := i.scale * stepUp
  let below := num / den
  let above := below + 1
  let has (k : Nat) : Bool := i.contains (k * stepUp) stepDown
  if has above ∧ (¬ has below ∨ den ≤ 2 * (num % den)) then some above
  else if has below then some below
  else none

/-- Searches the grids of `count`, `count + 1`, … digits. -/
def search (i : Interval) (point : Int) : (tries count : Nat) → Nat × Nat
  | 0, count => (0, count)
  | tries + 1, count =>
    match onGrid? i point count with
    | some k => (k, count)
    | none => search i point tries (count + 1)

/-- The shortest decimal that reads back as `mantissa * 2 ^ exponent`; seventeen digits always
suffice. -/
def shortest (mantissa : Nat) (exponent : Int) : Decimal :=
  let i := Interval.of mantissa exponent
  let point := pointOf i.value i.scale
  let (k, count) := search i point 17 1
  -- A neighbour above may be the power of ten that ends the grid, which has one digit more.
  if k = Nat.pow 10 count then ⟨1, point + 1⟩ else ⟨k, point⟩

end Decimal

end Turnstile
