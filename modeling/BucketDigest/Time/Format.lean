import BucketDigest.Numeral
import BucketDigest.Time.Timestamp

/-!
# Writing dates and times

Years from 0 to 9999 take four digits; others take a sign and at least four. Seconds are written
with three decimals, cut off and not rounded, and a leap second is second 60.
-/
namespace BucketDigest.Time

open Numeral (padded)

/-- A year in full dates. -/
def yearText (year : Int) : List Char :=
  if 0 ≤ year ∧ year ≤ 9999 then padded 4 year.toNat
  else (if year < 0 then '-' else '+') :: padded 4 year.natAbs

/-- A date as `YYYY-MM-DD`. -/
def Date.text (d : Date) : List Char :=
  yearText d.year ++ '-' :: padded 2 d.month ++ '-' :: padded 2 d.day

/-- A timestamp in UTC as `YYYY-MM-DDThh:mm:ss.mmmZ`. -/
def Timestamp.text (t : Timestamp) : List Char :=
  t.date.text ++ 'T' :: padded 2 t.hour ++ ':' :: padded 2 t.minute ++ ':' :: padded 2 t.second ++
    '.' :: padded 3 t.milli ++ ['Z']

end BucketDigest.Time
