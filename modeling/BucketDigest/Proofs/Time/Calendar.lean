import BucketDigest.Proofs.Time.Years

/-!
# The order of days

Of two dates the earlier has the lower number of its day. So no two dates have the same number, and
the date of a day's number is the only one with that number.

* `dayNumber_lt_iff`: days are numbered in the order of the calendar.
* `ofDayNumber_dayNumber`: a date is found from its number.
* `date_ofLocal`: clocks without an offset show the date in UTC.
-/
namespace BucketDigest.Time

/-! ## Days before a month -/

theorem daysBefore_zero (lengths : List Nat) : daysBefore lengths 0 = 0 := by
  cases lengths <;> rfl

theorem daysBefore_succ {lengths : List Nat} {i : Nat} (h : i < lengths.length) :
    daysBefore lengths (i + 1) = daysBefore lengths i + lengths.getD i 0 := by
  induction lengths generalizing i with
  | nil => exact absurd h (Nat.not_lt_zero i)
  | cons length rest ih =>
    cases i with
    | zero => rw [daysBefore, daysBefore_zero, daysBefore_zero, Nat.zero_add]; rfl
    | succ i =>
      rw [daysBefore, daysBefore, ih (Nat.lt_of_succ_lt_succ h), List.getD_cons_succ, Nat.add_assoc]

theorem daysBefore_mono {lengths : List Nat} {i j : Nat} (h : i ≤ j) (hj : j ≤ lengths.length) :
    daysBefore lengths i ≤ daysBefore lengths j := by
  induction h with
  | refl => exact Nat.le_refl _
  | @step j hij ih =>
    have := ih (Nat.le_of_succ_le hj)
    rw [daysBefore_succ hj]
    omega

namespace Date

/-- Days from the start of the year to a date. -/
def dayOfYear (d : Date) : Nat :=
  daysBefore (monthLengths (isLeap d.year)) (d.month - 1) + (d.day - 1)

theorem dayNumber_eq (d : Date) :
    d.dayNumber = daysBeforeYear d.year + d.dayOfYear - epochDay := by
  unfold dayNumber dayOfYear
  omega

/-- A month is over before the next one starts. -/
theorem dayOfYear_lt_daysBefore (d : Date) :
    d.dayOfYear < daysBefore (monthLengths (isLeap d.year)) d.month := by
  have hpos := d.month_pos
  have hle := d.month_le
  have hday := d.day_pos
  have hlength : d.day ≤ (monthLengths (isLeap d.year)).getD (d.month - 1) 0 := d.day_le
  have hmonth : d.month - 1 < (monthLengths (isLeap d.year)).length := by
    rw [length_monthLengths]
    omega
  have hsucc := daysBefore_succ hmonth
  rw [Nat.sub_add_cancel hpos] at hsucc
  unfold dayOfYear
  omega

/-- A year is over before the next one starts. -/
theorem dayNumber_lt_nextYear (d : Date) :
    d.dayNumber < daysBeforeYear (d.year + 1) - epochDay := by
  have hlt := d.dayOfYear_lt_daysBefore
  have hle : daysBefore (monthLengths (isLeap d.year)) d.month ≤
      daysBefore (monthLengths (isLeap d.year)) 12 :=
    daysBefore_mono d.month_le (Nat.le_refl _)
  rw [daysBefore_monthLengths] at hle
  rw [dayNumber_eq, daysBeforeYear_succ]
  split at hle <;> simp_all <;> omega

/-! ## The order of dates -/

/-- One date comes before another in the calendar. -/
def Precedes (d d' : Date) : Prop :=
  d.year < d'.year ∨
    d.year = d'.year ∧ (d.month < d'.month ∨ d.month = d'.month ∧ d.day < d'.day)

theorem precedes_or_eq_or_precedes (d d' : Date) : d.Precedes d' ∨ d = d' ∨ d'.Precedes d := by
  rcases Int.lt_trichotomy d.year d'.year with hyear | hyear | hyear
  · exact .inl (.inl hyear)
  · rcases Nat.lt_trichotomy d.month d'.month with hmonth | hmonth | hmonth
    · exact .inl (.inr ⟨hyear, .inl hmonth⟩)
    · rcases Nat.lt_trichotomy d.day d'.day with hday | hday | hday
      · exact .inl (.inr ⟨hyear, .inr ⟨hmonth, hday⟩⟩)
      · exact .inr (.inl (Date.ext hyear hmonth hday))
      · exact .inr (.inr (.inr ⟨hyear.symm, .inr ⟨hmonth.symm, hday⟩⟩))
    · exact .inr (.inr (.inr ⟨hyear.symm, .inl hmonth⟩))
  · exact .inr (.inr (.inl hyear))

theorem Precedes.dayNumber_lt {d d' : Date} (h : d.Precedes d') : d.dayNumber < d'.dayNumber := by
  rcases h with hyear | ⟨hyear, hmonth | ⟨hmonth, hday⟩⟩
  · have hlt := d.dayNumber_lt_nextYear
    have hle := daysBeforeYear_mono (show d.year + 1 ≤ d'.year from hyear)
    have heq := d'.dayNumber_eq
    omega
  · have hlt := d.dayOfYear_lt_daysBefore
    have hlast : d'.month - 1 ≤ (monthLengths (isLeap d.year)).length :=
      Nat.le_trans (Nat.sub_le ..) d'.month_le
    have hle := daysBefore_mono (show d.month ≤ d'.month - 1 by omega) hlast
    rw [dayNumber_eq, dayNumber_eq, ← hyear]
    have hdef : d'.dayOfYear =
      daysBefore (monthLengths (isLeap d'.year)) (d'.month - 1) + (d'.day - 1) := rfl
    rw [← hyear] at hdef
    omega
  · have hpos := d.day_pos
    rw [dayNumber_eq, dayNumber_eq]
    unfold dayOfYear
    rw [← hyear, ← hmonth]
    omega

/-- Days are numbered in the order of the calendar. -/
theorem dayNumber_lt_iff (d d' : Date) : d.dayNumber < d'.dayNumber ↔ d.Precedes d' := by
  refine ⟨fun hlt => ?_, Precedes.dayNumber_lt⟩
  rcases precedes_or_eq_or_precedes d d' with h | rfl | h
  · exact h
  · exact absurd hlt (Int.lt_irrefl _)
  · exact absurd hlt (Int.lt_asymm h.dayNumber_lt)

theorem dayNumber_injective {d d' : Date} (h : d.dayNumber = d'.dayNumber) : d = d' := by
  rcases precedes_or_eq_or_precedes d d' with hlt | heq | hlt
  · exact absurd h (Int.ne_of_lt hlt.dayNumber_lt)
  · exact heq
  · exact absurd h.symm (Int.ne_of_lt hlt.dayNumber_lt)

/-- A date is found from its number. -/
theorem ofDayNumber_dayNumber (d : Date) : ofDayNumber d.dayNumber = d :=
  dayNumber_injective (dayNumber_ofDayNumber _)

theorem ofDayNumber_precedes_iff (n n' : Int) :
    (ofDayNumber n).Precedes (ofDayNumber n') ↔ n < n' := by
  rw [← dayNumber_lt_iff, dayNumber_ofDayNumber, dayNumber_ofDayNumber]

end Date

/-- Clocks without an offset show the date in UTC. -/
theorem Timestamp.date_ofLocal (d : Date) (clock : Clock) : (ofLocal d clock 0).date = d := by
  have hhour := clock.hour_lt
  have hminute := clock.minute_lt
  have hseconds : (ofLocal d clock 0).seconds = d.dayNumber * 86400 +
    (clock.hour * 3600 + clock.minute * 60 + min clock.second 59 : Nat) - 0 * 60 := rfl
  have hday : (ofLocal d clock 0).dayNumber = d.dayNumber := by
    unfold dayNumber
    omega
  unfold date
  rw [hday, Date.ofDayNumber_dayNumber]

end BucketDigest.Time
