import BucketDigest.Text.Blank
import BucketDigest.Time.Rfc3339

/-!
# Date-like values as they are written

A value may name a year, a month, a day or an instant, in one of four syntaxes.

* `readZoned?`: an RFC 3339 timestamp.
* `readUnzoned?`: a timestamp without an offset, taken as UTC.
* `readDay?`: a date.
* `readPeriod?`: `YYYY` or `YYYY-MM`.

In an unzoned timestamp and in a date, white space may stand before each number, the year may have
a sign and then any number of digits, and the other numbers have one digit or two.
-/
namespace BucketDigest.Time

/-- A date-like value at the precision it was written with. -/
inductive Moment
  | year (year : Nat)
  | month (year month : Nat)
  | day (date : Date)
  | instant (time : Timestamp)
  deriving DecidableEq

namespace Moment

/-- Reads a number of one digit up to `width`, after white space. -/
def takeNumber? (width : Nat) (cs : List Char) : Option (Nat × List Char) :=
  let cs := Text.trimStart cs
  let ds := (cs.takeWhile Char.isDigit).take width
  if ds = [] then none else some (Nat.ofDigitChars 10 ds 0, cs.drop ds.length)

/-- Reads digits without a limit to their number. -/
def takeDigits? (cs : List Char) : Option (Nat × List Char) :=
  let ds := cs.takeWhile Char.isDigit
  if ds = [] then none else some (Nat.ofDigitChars 10 ds 0, cs.dropWhile Char.isDigit)

/-- Reads a year after white space: up to four digits, or a sign and any number of them. -/
def takeYear? (cs : List Char) : Option (Int × List Char) :=
  match Text.trimStart cs with
  | '-' :: cs => (takeDigits? cs).map fun (n, rest) => (-(n : Int), rest)
  | '+' :: cs => (takeDigits? cs).map fun (n, rest) => ((n : Int), rest)
  | cs => (takeNumber? 4 cs).map fun (n, rest) => ((n : Int), rest)

/-- Reads one given character. -/
def takeMark? (c : Char) : List Char → Option (List Char)
  | [] => none
  | d :: cs => if d = c then some cs else none

/-- Reads a year, a month and a day between hyphens. -/
def takeDate? (cs : List Char) : Option (Date × List Char) := do
  let (y, cs) ← takeYear? cs
  let cs ← takeMark? '-' cs
  let (m, cs) ← takeNumber? 2 cs
  let cs ← takeMark? '-' cs
  let (d, cs) ← takeNumber? 2 cs
  let date ← Date.of? y m d
  return (date, cs)

/-- Reads hour, minute and second between colons, and a fraction if one is there. -/
def takeClock? (cs : List Char) : Option (Clock × List Char) := do
  let (hour, cs) ← takeNumber? 2 cs
  let cs ← takeMark? ':' cs
  let (minute, cs) ← takeNumber? 2 cs
  let cs ← takeMark? ':' cs
  let (second, cs) ← takeNumber? 2 cs
  let (nanos, cs) ← (Rfc3339.fraction cs).toOption
  let clock ← Clock.of? hour minute second nanos
  return (clock, cs)

/-- What was read, if nothing follows it. -/
def whole? {α : Type} : Option (α × List Char) → Option α
  | some (a, []) => some a
  | _ => none

/-- An RFC 3339 timestamp. -/
def readZoned? (text : String) : Option Timestamp :=
  (Rfc3339.read text).toOption

/-- A timestamp without an offset, such as `2009-06-06T12:45:12.5`, taken as UTC. -/
def readUnzoned? (text : String) : Option Timestamp :=
  whole? do
    let (date, cs) ← takeDate? text.toList
    let cs ← takeMark? 'T' cs
    let (clock, cs) ← takeClock? cs
    return (.ofLocal date clock 0, cs)

/-- A date, such as `2009-06-06`. -/
def readDay? (text : String) : Option Date :=
  whole? (takeDate? text.toList)

/-- Four digits, or four and two between a hyphen: a year or a month. -/
def readPeriod? (text : String) : Option Moment :=
  match text.toList with
  | [a, b, c, d] => (Numeral.natural? [a, b, c, d]).map .year
  | [a, b, c, d, '-', e, f] => do
    let y ← Numeral.natural? [a, b, c, d]
    let m ← Numeral.natural? [e, f]
    if 1 ≤ m ∧ m ≤ 12 then some (.month y m) else none
  | _ => none

/-- The value that a text names. -/
def read? (text : String) : Option Moment :=
  (((readZoned? text).map .instant).or ((readUnzoned? text).map .instant)).or
    (((readDay? text).map .day).or (readPeriod? text))

end Moment

end BucketDigest.Time
