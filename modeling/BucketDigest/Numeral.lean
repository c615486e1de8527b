/-!
# Decimal numerals

Reading and writing whole numbers in ASCII digits.

* `natural?` reads one digit or more; `int64?` and `uint64?` also take a sign and refuse what does
  not fit into 64 bits. None of them takes white space or separators, and leading zeros are fine.
* `decimal` writes without leading zeros, `padded` fills up with zeros on the left.
* `countText` and `integerText` write numbers in messages.
-/
namespace BucketDigest.Numeral

/-- The number that one ASCII digit or more stand for. -/
def natural? (cs : List Char) : Option Nat :=
  if cs ≠ [] ∧ cs.all Char.isDigit then some (Nat.ofDigitChars 10 cs 0) else none

/-- The least 64-bit integer. -/
def int64Min : Int := -9223372036854775808

/-- The greatest 64-bit integer. -/
def int64Max : Int := 9223372036854775807

/-- Whether an integer fits into 64 bits. -/
def FitsInt64 (n : Int) : Prop :=
  int64Min ≤ n ∧ n ≤ int64Max

instance (n : Int) : Decidable (FitsInt64 n) :=
  inferInstanceAs (Decidable (_ ∧ _))

/-- The integer that digits after an optional sign stand for. -/
def integer? : List Char → Option Int
  | '-' :: cs => (natural? cs).map fun n => -(n : Int)
  | '+' :: cs => (natural? cs).map fun n => (n : Int)
  | cs => (natural? cs).map fun n => (n : Int)

/-- The 64-bit integer that digits after an optional sign stand for. -/
def int64? (cs : List Char) : Option Int :=
  (integer? cs).filter fun n => decide (FitsInt64 n)

/-- The digits of an unsigned numeral, which may start with a plus sign. -/
def afterPlus : List Char → List Char
  | '+' :: cs => cs
  | cs => cs

/-- The unsigned 64-bit number that digits after an optional plus sign stand for. -/
def uint64? (cs : List Char) : Option UInt64 :=
  match natural? (afterPlus cs) with
  | none => none
  | some n => if n < 18446744073709551616 then some (UInt64.ofNat n) else none

/-- An integer in decimal digits, with a minus sign if it is negative. -/
def decimal : Int → List Char
  | .ofNat n => Nat.toDigits 10 n
  | .negSucc n => '-' :: Nat.toDigits 10 (n + 1)

/-- Decimal digits filled up with zeros on the left to at least `width` of them. -/
def padded (width n : Nat) : List Char :=
  List.replicate (width - (Nat.toDigits 10 n).length) '0' ++ Nat.toDigits 10 n

/-- A count as it stands in messages. -/
def countText (n : Nat) : String := String.ofList (Nat.toDigits 10 n)

/-- An integer as it stands in messages. -/
def integerText (n : Int) : String := String.ofList (decimal n)

@[simp] theorem natural?_nil : natural? [] = none := rfl

/-- Writing and reading back. -/
theorem natural?_toDigits (n : Nat) : natural? (Nat.toDigits 10 n) = some n := by
  have h : (Nat.toDigits 10 n).all Char.isDigit = true :=
    List.all_eq_true.2 fun _ hc => Nat.isDigit_of_mem_toDigits (by omega) (by omega) hc
  simp [natural?, Nat.toDigits_ne_nil, h]

end BucketDigest.Numeral
