/-!
# Binary floating point

Finite numbers with 53 significant bits as exact integers times powers of two, and the operations
on them that reading a decimal number needs. Each operation rounds its exact result to the nearest
such number, a tie to the one with an even mantissa.
-/
namespace BucketDigest.Decimal

/-- The number `mantissa * 2 ^ exponent`, with a sign that a zero has too. -/
structure Binary64 where
  negative : Bool
  mantissa : Nat
  exponent : Int
  deriving DecidableEq

/-- A quotient rounded to the nearest integer, a tie to the even one. -/
def roundDiv (num den : Nat) : Nat :=
  let q := num / den
  let r := num % den
  if 2 * r < den ∨ (2 * r = den ∧ q % 2 = 0) then q else q + 1

/-- A power of two as a quotient. -/
def twoTo (e : Int) : Nat × Nat := (Nat.pow 2 e.toNat, Nat.pow 2 (-e).toNat)

/-- The exponent at which the integer part of `num / den` has 53 bits, or the least exponent. -/
def scale (num den : Nat) : Int :=
  let guess : Int := (Nat.log2 num : Int) - (Nat.log2 den : Int) - 52
  let (up, down) := twoTo guess
  max (if num * down < 4503599627370496 * (den * up) then guess - 1 else guess) (-1074)

namespace Binary64

/-- Zero. -/
def zero (negative : Bool) : Binary64 := ⟨negative, 0, -1074⟩

/-- Whether this is a zero of either sign. -/
def isZero (x : Binary64) : Bool := x.mantissa == 0

/-- The number nearest to a positive quotient, unless it is too large. -/
def ofRatio? (negative : Bool) (num den : Nat) : Option Binary64 :=
  if num = 0 then some (zero negative)
  else
    let e := scale num den
    let (up, down) := twoTo e
    let m := roundDiv (num * down) (den * up)
    let (m, e) := if m = 9007199254740992 then (4503599627370496, e + 1) else (m, e)
    if 971 < e then none else some ⟨negative, m, e⟩

/-- The number nearest to a natural number below `2 ^ 64`. -/
def ofNat (n : Nat) : Binary64 := (ofRatio? false n 1).getD (zero false)

/-- The number nearest to a power of ten, for exponents up to 308. -/
def tenTo (k : Nat) : Binary64 := ofNat (Nat.pow 10 k)

/-- The product, unless it is too large. -/
def mul? (x y : Binary64) : Option Binary64 :=
  let (up, down) := twoTo (x.exponent + y.exponent)
  ofRatio? (x.negative != y.negative) (x.mantissa * y.mantissa * up) down

/-- The quotient by a number that is not zero, unless it is too large. -/
def div? (x y : Binary64) : Option Binary64 :=
  let (up, down) := twoTo (x.exponent - y.exponent)
  ofRatio? (x.negative != y.negative) (x.mantissa * up) (y.mantissa * down)

/-- The number with the other sign. -/
def neg (x : Binary64) : Binary64 := { x with negative := !x.negative }

end Binary64

/-- Divides by `10 ^ n`, in steps of at most `10 ^ 308`. -/
def divideByTens (x : Binary64) (n : Nat) : Option Binary64 :=
  if n ≤ 308 then x.div? (.tenTo n)
  else if x.isZero then some x
  else
    match x.div? (.tenTo 308) with
    | none => none
    | some y => divideByTens y (n - 308)
termination_by n

/-- The value read for digits and a power of ten, unless it is too large: the digits are rounded
first, and then the product or the quotient. -/
def value? (significand : Nat) (exponent : Int) : Option Binary64 :=
  let x := Binary64.ofNat significand
  if exponent < 0 then divideByTens x exponent.natAbs
  else if exponent ≤ 308 then x.mul? (.tenTo exponent.toNat)
  else if x.isZero then some x
  else none

end BucketDigest.Decimal
