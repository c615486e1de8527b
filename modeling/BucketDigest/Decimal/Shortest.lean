import BucketDigest.Decimal.Binary64

/-!
# Shortest decimal text

A floating-point number is written with the fewest digits that read back as it, and of those with
the ones nearest to it.

* `digits`: these digits and their exponent.
* `Layout`: where positional notation ends. Exponents have a sign and no zeros in front.
-/
namespace BucketDigest.Decimal

/-- The reals that round to a positive number, and the number itself, in quarters of its last
binary place: a lower end, the number, and an upper end. The ends belong to it when its mantissa
is even. -/
structure Interval where
  low : Nat
  middle : Nat
  high : Nat
  closed : Bool
  exponent : Int

/-- The reals that round to a number. Below a power of two they are half as dense. -/
def Interval.of (x : Binary64) : Interval where
  low := 4 * x.mantissa - if x.mantissa = 4503599627370496 ∧ -1074 < x.exponent then 1 else 2
  middle := 4 * x.mantissa
  high := 4 * x.mantissa + 2
  closed := x.mantissa % 2 = 0
  exponent := x.exponent - 2

/-- Whether `n` times the step lies in the interval; `unit` and `step` are a quarter place and a
power of ten in one common measure. -/
def Interval.contains (i : Interval) (unit step n : Nat) : Bool :=
  if i.closed then i.low * unit ≤ n * step && n * step ≤ i.high * unit
  else i.low * unit < n * step && n * step < i.high * unit

/-- The multiple of `10 ^ k` that lies in the interval and is nearest to its number. -/
def Interval.atPower? (i : Interval) (k : Int) : Option Nat :=
  let unit := Nat.pow 2 i.exponent.toNat * Nat.pow 10 (-k).toNat
  let step := Nat.pow 10 k.toNat * Nat.pow 2 (-i.exponent).toNat
  let below := i.middle * unit / step
  let above := below + 1
  match i.contains unit step below, i.contains unit step above with
  | true, true =>
    let twice := 2 * (i.middle * unit)
    let half := (below + above) * step
    if twice < half ∨ (twice = half ∧ below % 2 = 0) then some below else some above
  | true, false => some below
  | false, true => some above
  | false, false => none

/-- The first power of ten, going down from `10 ^ k`, that has a multiple in the interval. -/
def Interval.search (i : Interval) (k : Int) : Nat → Nat × Int
  | 0 => (0, 0)
  | fuel + 1 =>
    match i.atPower? k with
    | some n => (n, k)
    | none => i.search (k - 1) fuel

/-- The digits of a positive number, as an integer, and the power of ten that they count. A number
of `b` bits before the point has fewer than `b * 0.302 + 2` digits there, and 17 digits in all
are always enough. -/
def digits (x : Binary64) : Nat × Int :=
  let bits := (Nat.log2 x.mantissa : Int) + x.exponent + 1
  (Interval.of x).search (bits * 302 / 1000 + 2) 40

/-- The exponents of the first digit from which on and up to which a number is written
positionally. -/
structure Layout where
  leastPositional : Int
  greatestPositional : Int

/-- The text of digits `ds` times `10 ^ k`. -/
def Layout.text (layout : Layout) (ds : List Char) (k : Int) : List Char :=
  let e := k + (ds.length : Int) - 1
  if layout.leastPositional ≤ e ∧ e ≤ layout.greatestPositional then
    if 0 ≤ k then ds ++ List.replicate k.toNat '0' ++ ['.', '0']
    else if 0 ≤ e then ds.take (e.toNat + 1) ++ '.' :: ds.drop (e.toNat + 1)
    else ['0', '.'] ++ List.replicate (-e - 1).toNat '0' ++ ds
  else
    ds.take 1 ++ (if ds.length = 1 then [] else '.' :: ds.drop 1) ++
      ['e', if e < 0 then '-' else '+'] ++ Nat.toDigits 10 e.natAbs

/-- The shortest text of a number. -/
def Layout.shortest (layout : Layout) (x : Binary64) : List Char :=
  let sign := if x.negative then ['-'] else []
  if x.isZero then sign ++ ['0', '.', '0']
  else
    let (n, k) := digits x
    sign ++ layout.text (Nat.toDigits 10 n) k

end BucketDigest.Decimal
