import BucketDigest.Json.Source

/-!
# Numbers in documents

Reads a number and keeps it exactly where it is an integer of 64 bits, and as a floating-point
number otherwise.

Of the digits before the exponent those count that fit into 64 bits without a sign; more digits
before the point raise the exponent, and more digits behind it are passed over.
-/
namespace BucketDigest.Json

/-- A number as it was read. -/
inductive Number
  | integer (value : Int)
  | float (value : Decimal.Binary64)
  deriving DecidableEq

/-- Whether an octet is a decimal digit. -/
def isDigit (b : UInt8) : Bool := octet '0' ≤ b && b ≤ octet '9'

/-- The value of a decimal digit. -/
def digitValue (b : UInt8) : Nat := b.toNat - 48

/-- The digits at the front, and the octets after them. -/
def spanDigits (s : List UInt8) : List UInt8 × List UInt8 :=
  (s.takeWhile isDigit, s.dropWhile isDigit)

/-- Whether an octet starts an exponent. -/
def isExponentMark (b : UInt8) : Bool := b = octet 'e' || b = octet 'E'

/-- Takes digits onto a number as long as it stays below `2 ^ 64`, and counts those left. -/
def absorb (n : Nat) : List UInt8 → Nat × Nat
  | [] => (n, 0)
  | d :: ds =>
    if n * 10 + digitValue d < 18446744073709551616 then absorb (n * 10 + digitValue d) ds
    else (n, ds.length + 1)

/-- A number with a sign, unless it is too large. -/
def signed (negative : Bool) : Option Decimal.Binary64 → Except Fault Number
  | none => .error (.malformed .numberOutOfRange)
  | some x => .ok (.float (if negative then x.neg else x))

/-- The integer that digits stand for; a float if it does not fit into 64 bits, or is the negative
zero. -/
def ofInteger (negative : Bool) (n : Nat) : Number :=
  if negative then
    if n = 0 ∨ 9223372036854775808 < n then .float (Decimal.Binary64.ofNat n).neg
    else .integer (-(n : Int))
  else .integer n

/-- The greatest exponent that is read to its end. -/
def exponentLimit : Nat := 2147483647

/-- Reads the digits of an exponent onto `n`; none if they pass the limit, which is noticed at
the first digit that passes it. -/
def readExponentDigits (e : Ending) (n : Nat) :
    List UInt8 → Except Fault (Option Nat × List UInt8)
  | [] => (peek e []).map fun _ => (some n, [])
  | b :: s =>
    if isDigit b then
      if n * 10 + digitValue b ≤ exponentLimit then readExponentDigits e (n * 10 + digitValue b) s
      else .ok (none, s)
    else .ok (some n, b :: s)

/-- Reads a sign, if there is one: whether it is a minus, and what follows. -/
def readSign (e : Ending) (s : List UInt8) : Except Fault (Bool × List UInt8) :=
  match s with
  | [] => (peek e []).map fun _ => (false, [])
  | b :: rest =>
    if b = octet '+' then .ok (false, rest)
    else if b = octet '-' then .ok (true, rest)
    else .ok (false, b :: rest)

/-- Reads an exponent after its mark, for digits `n` times a power of ten. -/
def readExponent (e : Ending) (negative : Bool) (n : Nat) (power : Int) (s : List UInt8) :
    Except Fault (Number × List UInt8) := do
  let (down, s) ← readSign e s
  match s with
  | [] => throw (e.fault .value)
  | b :: s =>
    if !isDigit b then throw (.malformed .invalidNumber)
    match ← readExponentDigits e (digitValue b) s with
    | (some exponent, s) =>
      let power := if down then power - exponent else power + exponent
      return (← signed negative (Decimal.value? n power), s)
    | (none, s) =>
      if n ≠ 0 ∧ !down then throw (.malformed .numberOutOfRange)
      let s := s.dropWhile isDigit
      peek e s
      return (← signed negative (some (.zero false)), s)

/-- Reads digits behind the point and an exponent, if there is one. -/
def readFraction (e : Ending) (negative : Bool) (n : Nat) (power : Int) (s : List UInt8) :
    Except Fault (Number × List UInt8) := do
  let (ds, s) := spanDigits s
  peek e s
  let (n', left) := absorb n ds
  match ds, s with
  | [], [] => throw (e.fault .value)
  | [], _ :: _ => throw (.malformed .invalidNumber)
  | _ :: _, _ =>
    let power := power - (ds.length - left : Nat)
    match s with
    | b :: rest =>
      if isExponentMark b then readExponent e negative n' power rest
      else return (← signed negative (Decimal.value? n' power), s)
    | [] => return (← signed negative (Decimal.value? n' power), s)

/-- Reads a number without its sign. -/
def readNumber (e : Ending) (negative : Bool) (s : List UInt8) :
    Except Fault (Number × List UInt8) := do
  match s with
  | [] => throw (e.fault .value)
  | b :: s =>
    if !isDigit b then throw (.malformed .invalidNumber)
    let (ds, s) := if b = octet '0' then ([], s) else spanDigits s
    peek e s
    let (n, left) := absorb 0 (b :: ds)
    match s with
    | c :: rest =>
      if isDigit c then throw (.malformed .invalidNumber)
      else if c = octet '.' then readFraction e negative n left rest
      else if isExponentMark c then readExponent e negative n left rest
      else if left = 0 then return (ofInteger negative n, s)
      else return (← signed negative (Decimal.value? n left), s)
    | [] =>
      if left = 0 then return (ofInteger negative n, s)
      else return (← signed negative (Decimal.value? n left), s)

end BucketDigest.Json
