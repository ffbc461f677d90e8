/-!
# Machine words

How far whole numbers of a fixed width reach. The numbers themselves are `Nat` and `Int` throughout; a
bound is checked where a number comes in.
-/

namespace Turnstile.Word

/-- The first number that needs more than 32 bits. -/
def bound32 : Nat := 4294967296

/-- The first number that needs more than 64 bits. -/
def bound64 : Nat := 18446744073709551616

/-- The first number that needs more than 63 bits beside its sign. -/
def signedBound64 : Nat := 9223372036854775808

/-- Whether a number fits into 64 bits with its sign. -/
def holds (n : Int) : Bool := -Int.ofNat signedBound64 ≤ n && n < Int.ofNat signedBound64

end Turnstile.Word
