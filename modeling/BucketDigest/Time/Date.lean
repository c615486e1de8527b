/-!
# The proleptic Gregorian calendar

Dates with a year 0 and negative years, and the number of the day that each names.

* `Date.ofDayNumber` gives the date of any day; `dayNumber_ofDayNumber` says that it is the right
  one, so no day is missed or named twice.
-/
namespace BucketDigest.Time

/-- Whether a year has a 29 February. -/
def isLeap (year : Int) : Bool :=
  year % 4 = 0 && (year % 100 ≠ 0 || year % 400 = 0)

/-- The lengths of the months of a year, in order. -/
def monthLengths (leap : Bool) : List Nat :=
  [31, if leap then 29 else 28, 31, 30, 31, 30, 31, 31, 30, 31, 30, 31]

/-- The length of a month, which counts from 1; no days if there is no such month. -/
def monthLength (year : Int) (month : Nat) : Nat :=
  (monthLengths (isLeap year)).getD (month - 1) 0

/-- A day of the calendar. -/
@[ext]
structure Date where
  year : Int
  month : Nat
  day : Nat
  month_pos : 1 ≤ month
  month_le : month ≤ 12
  day_pos : 1 ≤ day
  day_le : day ≤ monthLength year month
  deriving DecidableEq

/-- The first year that can be written. -/
def firstYear : Int := -262143

/-- The last year that can be written. -/
def lastYear : Int := 262142

/-- The date with the given parts, if there is one and its year can be written. -/
def Date.of? (year : Int) (month day : Nat) : Option Date :=
  if h : (1 ≤ month ∧ month ≤ 12) ∧ 1 ≤ day ∧ day ≤ monthLength year month then
    if firstYear ≤ year ∧ year ≤ lastYear then
      some ⟨year, month, day, h.1.1, h.1.2, h.2.1, h.2.2⟩
    else none
  else none

/-! ## Counting days -/

/-- Days from the start of year 0 to the start of a year. -/
def daysBeforeYear (year : Int) : Int :=
  365 * year + (year + 3) / 4 - (year + 99) / 100 + (year + 399) / 400

/-- Days in the first `i` of some months. -/
def daysBefore : List Nat → Nat → Nat
  | length :: rest, i + 1 => length + daysBefore rest i
  | _, _ => 0

/-- Days from the start of year 0 to 1 January 1970. -/
def epochDay : Int := 719528

/-- Days from 1 January 1970 to a date. -/
def Date.dayNumber (d : Date) : Int :=
  daysBeforeYear d.year + (daysBefore (monthLengths (isLeap d.year)) (d.month - 1) : Nat) +
    (d.day - 1 : Nat) - epochDay

/-- The year that a day, counted from the start of year 0, falls in. -/
def yearOf (n : Int) : Int :=
  let guess := n * 400 / 146097
  if n < daysBeforeYear guess then guess - 1
  else if daysBeforeYear (guess + 1) ≤ n then guess + 1
  else guess

theorem yearOf_spec (n : Int) :
    daysBeforeYear (yearOf n) ≤ n ∧ n < daysBeforeYear (yearOf n + 1) := by
  unfold yearOf
  simp only
  split
  · rw [Int.sub_add_cancel]
    unfold daysBeforeYear at *
    omega
  · split <;> (unfold daysBeforeYear at *; omega)

theorem daysBeforeYear_succ (year : Int) :
    daysBeforeYear (year + 1) = daysBeforeYear year + 365 + if isLeap year then 1 else 0 := by
  unfold daysBeforeYear isLeap
  simp only [Bool.and_eq_true, Bool.or_eq_true, decide_eq_true_eq]
  split <;> omega

theorem daysBefore_monthLengths (leap : Bool) :
    daysBefore (monthLengths leap) 12 = 365 + if leap then 1 else 0 := by
  cases leap <;> rfl

/-- The month a day falls in and its place there, all counted from zero, when the months have the
given lengths. -/
def locate : List Nat → Nat → Nat × Nat
  | [], n => (0, n)
  | length :: rest, n =>
    if n < length then (0, n) else ((locate rest (n - length)).1 + 1, (locate rest (n - length)).2)

theorem locate_spec {lengths : List Nat} {n : Nat} (h : n < daysBefore lengths lengths.length) :
    (locate lengths n).1 < lengths.length ∧
      (locate lengths n).2 < lengths.getD (locate lengths n).1 0 ∧
      daysBefore lengths (locate lengths n).1 + (locate lengths n).2 = n := by
  induction lengths generalizing n with
  | nil => simp [daysBefore] at h
  | cons length rest ih =>
    simp only [List.length_cons, daysBefore] at h
    unfold locate
    split
    · next hn => simp [daysBefore, hn]
    · next hn =>
      have := ih (n := n - length) (by omega)
      simp only [List.length_cons, List.getD_cons_succ, daysBefore]
      omega

theorem length_monthLengths (leap : Bool) : (monthLengths leap).length = 12 := rfl

theorem dayOfYear_lt (n : Int) :
    (n - daysBeforeYear (yearOf n)).toNat <
      daysBefore (monthLengths (isLeap (yearOf n))) (monthLengths (isLeap (yearOf n))).length := by
  have h := yearOf_spec n
  rw [daysBeforeYear_succ] at h
  rw [length_monthLengths, daysBefore_monthLengths]
  split at h <;> simp_all <;> omega

/-- The date of a day counted from 1 January 1970. -/
def Date.ofDayNumber (n : Int) : Date :=
  let year := yearOf (n + epochDay)
  let place := locate (monthLengths (isLeap year)) (n + epochDay - daysBeforeYear year).toNat
  have h := locate_spec (dayOfYear_lt (n + epochDay))
  { year := year
    month := place.1 + 1
    day := place.2 + 1
    month_pos := Nat.succ_pos _
    month_le := h.1
    day_pos := Nat.succ_pos _
    day_le := h.2.1 }

/-- The date found for a day has that day's number. -/
theorem dayNumber_ofDayNumber (n : Int) : (Date.ofDayNumber n).dayNumber = n := by
  have h := (locate_spec (dayOfYear_lt (n + epochDay))).2.2
  have hy := (yearOf_spec (n + epochDay)).1
  simp only [Date.dayNumber, Date.ofDayNumber, Nat.add_sub_cancel]
  omega

end BucketDigest.Time
