import BucketDigest.Numeral
import BucketDigest.Time.Timestamp

/-!
# RFC 3339 timestamps

Reads `YYYY-MM-DDThh:mm:ss`, an optional fraction, and `Z` or an offset, and says what is wrong
with a text that does not have this form.

* `Fault`: the ways in which a text can fail.
* `read`: the timestamp in UTC.
-/
namespace BucketDigest.Time.Rfc3339

/-- What is wrong with a text that is no timestamp. -/
inductive Fault
  | premature
  | outOfRange
  | invalid
  | trailing
  deriving DecidableEq

/-- The wording of a fault. -/
def Fault.message : Fault → String
  | .premature => "premature end of input"
  | .outOfRange => "input is out of range"
  | .invalid => "input contains invalid characters"
  | .trailing => "trailing input"

/-- How many octets the characters take in UTF-8. -/
def octetCount (cs : List Char) : Nat :=
  cs.foldr (fun c n => c.utf8Size + n) 0

/-- Reads exactly `n` digits onto `value`. -/
def digits : Nat → Nat → List Char → Except Fault (Nat × List Char)
  | 0, value, cs => .ok (value, cs)
  | _ + 1, _, [] => .error .premature
  | n + 1, value, c :: cs =>
    if c.isDigit then digits n (value * 10 + (c.toNat - '0'.toNat)) cs else .error .invalid

/-- Reads one character of a kind. -/
def one (accept : Char → Bool) : List Char → Except Fault (List Char)
  | [] => .error .premature
  | c :: cs => if accept c then .ok cs else .error .invalid

/-- A value, or the fault that it is out of range. -/
def inRange {α : Type} : Option α → Except Fault α
  | none => .error .outOfRange
  | some a => .ok a

/-- The nanoseconds that the digits of a fraction stand for: nine digits count, missing ones are
zeros. -/
def nanosOf (cs : List Char) : Nat :=
  Nat.ofDigitChars 10 ((cs ++ List.replicate 9 '0').take 9) 0

/-- Reads a fraction of a second, if one is there. -/
def fraction : List Char → Except Fault (Nat × List Char)
  | '.' :: cs =>
    match cs with
    | [] => .error .premature
    | c :: _ =>
      if c.isDigit then .ok (nanosOf (cs.takeWhile Char.isDigit), cs.dropWhile Char.isDigit)
      else .error .invalid
  | cs => .ok (0, cs)

/-- Reads `hh:mm`, the size of an offset in minutes. Each number needs two octets of text before
its digits are looked at. -/
def offsetSize (cs : List Char) : Except Fault (Nat × List Char) := do
  if octetCount cs < 2 then throw .premature
  let (hours, cs) ← digits 2 0 cs
  let cs ← one (· = ':') cs
  if octetCount cs < 2 then throw .premature
  let (minutes, cs) ← digits 2 0 cs
  if minutes < 60 then return (hours * 60 + minutes, cs) else throw .outOfRange

/-- Reads the offset from UTC in minutes. A minus may be a hyphen or the minus sign U+2212. -/
def offset : List Char → Except Fault (Int × List Char)
  | [] => .error .premature
  | c :: cs =>
    if c = 'Z' ∨ c = 'z' then .ok (0, cs)
    else if c = '+' then (offsetSize cs).map fun (n, rest) => ((n : Int), rest)
    else if c = '-' ∨ c = '−' then (offsetSize cs).map fun (n, rest) => (-(n : Int), rest)
    else .error .invalid

/-- Reads a timestamp. Faults are found in the order of the text, except that the date is checked
before the time is read, and the time before the offset. -/
def read (text : String) : Except Fault Timestamp := do
  let cs := text.toList
  if octetCount cs < 19 then throw .premature
  let (year, cs) ← digits 4 0 cs
  let cs ← one (· = '-') cs
  let (month, cs) ← digits 2 0 cs
  let cs ← one (· = '-') cs
  let (day, cs) ← digits 2 0 cs
  let date ← inRange (Date.of? year month day)
  let cs ← one (fun c => c = 'T' || c = 't' || c = ' ') cs
  let (hour, cs) ← digits 2 0 cs
  let cs ← one (· = ':') cs
  let (minute, cs) ← digits 2 0 cs
  let cs ← one (· = ':') cs
  let (second, cs) ← digits 2 0 cs
  let (nanos, cs) ← fraction cs
  let clock ← inRange (Clock.of? hour minute second nanos)
  let (minutes, cs) ← offset cs
  if cs ≠ [] then throw .trailing
  if minutes.natAbs < 1440 then return .ofLocal date clock minutes else throw .outOfRange

end BucketDigest.Time.Rfc3339
