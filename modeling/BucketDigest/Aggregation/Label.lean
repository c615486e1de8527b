import BucketDigest.Aggregation.Granularity
import BucketDigest.Aggregation.Offsets
import BucketDigest.Time.Format
import BucketDigest.Time.Moment

/-!
# Labels

The bucket that a value falls in is named by a label.

* Dates: the part of the value that the granularity keeps, in UTC.
* Integers: the greatest multiple of the width that is not above the value.
* Prefixes: the first characters of the value.
-/
namespace BucketDigest

open Numeral (padded)

/-- Why a value has no label. -/
inductive LabelError
  | notDate
  | coarserThan (granularity : DateGranularity)
  | unsupported
  | notInteger
  | outOfRange
  deriving DecidableEq

/-- The wording of an error. -/
def LabelError.message : LabelError → String
  | .notDate => "not a date or timestamp"
  | .coarserThan granularity => "value is coarser than " ++ granularity.name ++ " granularity"
  | .unsupported => "value precision does not support granularity"
  | .notInteger => "not an integer"
  | .outOfRange => "integer out of range"

/-! ## Dates -/

namespace Time.Moment

/-- The finest granularity at which a value can be labelled. -/
def precision : Moment → DateGranularity
  | .year _ => .yearly
  | .month .. => .monthly
  | .day _ => .daily
  | .instant _ => .individual

/-- The year that a value falls in. -/
def yearNumber : Moment → Int
  | .year y => y
  | .month y _ => y
  | .day d => d.year
  | .instant t => t.date.year

/-- The month that a value falls in, if it names one. -/
def monthNumber? : Moment → Option Nat
  | .year _ => none
  | .month _ m => some m
  | .day d => some d.month
  | .instant t => some t.date.month

/-- The day that a value falls in, if it names one. -/
def date? : Moment → Option Date
  | .year _ => none
  | .month .. => none
  | .day d => some d
  | .instant t => some t.date

/-- The instant that a value names, if it names one. -/
def time? : Moment → Option Timestamp
  | .instant t => some t
  | _ => none

end Time.Moment

/-- A year in yearly and monthly labels: at least four characters, of which a minus is one. -/
def yearLabel (year : Int) : List Char :=
  if year < 0 then '-' :: padded 3 year.natAbs else padded 4 year.natAbs

/-- The label of a value at a granularity, from the parts that the value names. -/
def DateGranularity.text? (g : DateGranularity) (m : Time.Moment) : Option (List Char) :=
  match g with
  | .yearly => some (yearLabel m.yearNumber)
  | .monthly => m.monthNumber?.map fun month => yearLabel m.yearNumber ++ '-' :: padded 2 month
  | .daily => m.date?.map Time.Date.text
  | .individual => m.time?.map Time.Timestamp.text

/-- The label of a date-like value. The precision of the value is checked first, so that the parts
which the label is made of are there. -/
def DateGranularity.label (g : DateGranularity) (raw : String) : Except LabelError String :=
  match Time.Moment.read? raw with
  | none => .error .notDate
  | some m =>
    if m.precision < g then .error (.coarserThan g)
    else
      match g.text? m with
      | none => .error .unsupported
      | some text => .ok (String.ofList text)

/-- A value can be labelled at every granularity up to its own precision and at no other. -/
theorem DateGranularity.text?_eq_none_iff (g : DateGranularity) (m : Time.Moment) :
    g.text? m = none ↔ m.precision < g := by
  cases g <;> cases m <;>
    simp [text?, Time.Moment.monthNumber?, Time.Moment.date?, Time.Moment.time?,
      Time.Moment.precision] <;> decide

/-! ## Integers -/

/-- The lower end of the bucket of an integer, unless it is below every 64-bit integer. -/
def IntegerGranularity.bucketFloor? (g : IntegerGranularity) (value : Int) : Option Int :=
  let floor := value / g.width * g.width
  if Numeral.FitsInt64 floor then some floor else none

/-- The label of an integer. -/
def IntegerGranularity.label (g : IntegerGranularity) (raw : String) : Except LabelError String :=
  match Numeral.int64? raw.toList with
  | none => .error .notInteger
  | some value =>
    match g.bucketFloor? value with
    | none => .error .outOfRange
    | some floor => .ok (String.ofList (Numeral.decimal floor))

/-! ## Prefixes -/

/-- The label of a text: its first characters. -/
def Offsets.label (o : Offsets) (raw : String) : String :=
  String.ofList (raw.toList.take o.prefixLength.toNat)

end BucketDigest
