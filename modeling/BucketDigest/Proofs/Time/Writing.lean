import BucketDigest.Proofs.Numeral.Order
import BucketDigest.Proofs.Time.Calendar

/-!
# Dates and timestamps as they are written

No two dates are written alike, whatever their years, and timestamps are only if they lie in the
same millisecond. Within the years 0 to 9999 all are written at one width, and the texts are in the
order of time.

* `Date.text_injective`, `Timestamp.text_eq_iff`: texts that are the same.
* `Date.text_append_lt`, `Timestamp.text_lt`: texts in order.
-/
namespace BucketDigest.Time

open Numeral (padded)

/-! ## Texts that are the same -/

/-- A numeral is no sign followed by a numeral. -/
theorem padded_ne_cons {width n : Nat} {c : Char} (hc : c.isDigit = false) (cs : List Char) :
    padded width n ≠ c :: cs := by
  intro h
  have hmem : c ∈ padded width n := h ▸ List.mem_cons_self ..
  have hdigit := Numeral.isDigit_of_mem_padded hmem
  rw [hc] at hdigit
  cases hdigit

/-- A numeral of a fixed width at the end can be taken off. -/
theorem append_padded_inj {width n m : Nat} (hwidth : 0 < width) (hn : n < 10 ^ width)
    (hm : m < 10 ^ width) {c : Char} {s t : List Char}
    (h : s ++ c :: padded width n = t ++ c :: padded width m) : s = t ∧ n = m := by
  have hlen : (c :: padded width n).length = (c :: padded width m).length := by
    rw [List.length_cons, List.length_cons, Numeral.length_padded hwidth hn,
      Numeral.length_padded hwidth hm]
  obtain ⟨hst, hnm⟩ := List.append_inj' h hlen
  exact ⟨hst, Numeral.padded_injective (List.cons.inj hnm).2⟩

theorem yearText_injective {y y' : Int} (h : yearText y = yearText y') : y = y' := by
  by_cases hy : FourDigits y <;> by_cases hy' : FourDigits y'
  · rw [yearText_of_fourDigits hy, yearText_of_fourDigits hy'] at h
    have := Numeral.padded_injective h
    have := hy.1
    have := hy'.1
    omega
  · rw [yearText_of_fourDigits hy, yearText_of_not_fourDigits hy'] at h
    exact absurd h (padded_ne_cons (isDigit_yearSign y') _)
  · rw [yearText_of_not_fourDigits hy, yearText_of_fourDigits hy'] at h
    exact absurd h.symm (padded_ne_cons (isDigit_yearSign y) _)
  · rw [yearText_of_not_fourDigits hy, yearText_of_not_fourDigits hy'] at h
    obtain ⟨hsign, hdigits⟩ := List.cons.inj h
    have := Numeral.padded_injective hdigits
    unfold yearSign at hsign
    split at hsign <;> split at hsign
    · omega
    · cases hsign
    · cases hsign
    · omega

/-- No two dates are written alike. -/
theorem Date.text_injective {d d' : Date} (h : d.text = d'.text) : d = d' := by
  obtain ⟨h, hday⟩ := append_padded_inj (by decide) d.day_lt d'.day_lt h
  obtain ⟨h, hmonth⟩ := append_padded_inj (by decide) d.month_lt d'.month_lt h
  exact Date.ext (yearText_injective h) hmonth hday

namespace Timestamp

/-- Timestamps are written alike just if they lie in the same millisecond. -/
theorem text_eq_iff (t t' : Timestamp) : t.text = t'.text ↔ t.truncated = t'.truncated := by
  constructor
  · intro h
    obtain ⟨h, hmilli⟩ := append_padded_inj (by decide) t.milli_lt t'.milli_lt
      (List.append_inj' h rfl).1
    obtain ⟨h, hsecond⟩ := append_padded_inj (by decide) t.second_lt_pow t'.second_lt_pow h
    obtain ⟨h, hminute⟩ := append_padded_inj (by decide) t.minute_lt_pow t'.minute_lt_pow h
    obtain ⟨h, hhour⟩ := append_padded_inj (by decide) t.hour_lt_pow t'.hour_lt_pow h
    have hclock : t.clock = t'.clock := by
      unfold clock
      simp only [hhour, hminute, hsecond, hmilli]
    rw [← ofLocal_date_clock, ← ofLocal_date_clock, Date.text_injective h, hclock]
  · intro h
    rw [← t.text_truncated, h, text_truncated]

end Timestamp

/-! ## Texts in order -/

/-- A numeral of a fixed width, and then more: what stands in front decides first. -/
theorem padded_append_lt {width n m : Nat} {s t : List Char} (hm : m < 10 ^ width)
    (h : n < m ∨ n = m ∧ s < t) : padded width n ++ s < padded width m ++ t := by
  rcases h with hlt | ⟨rfl, hlt⟩
  · exact Numeral.padded_append_lt hlt hm s t
  · exact List.append_left_lt hlt

theorem cons_lt_cons {c : Char} {s t : List Char} (h : s < t) : c :: s < c :: t :=
  List.cons_lt_cons_iff.2 (.inr ⟨rfl, h⟩)

theorem Date.text_append {d : Date} (h : FourDigits d.year) (s : List Char) :
    d.text ++ s = padded 4 d.year.toNat ++
      '-' :: (padded 2 d.month ++ '-' :: (padded 2 d.day ++ s)) := by
  unfold text
  rw [yearText_of_fourDigits h]
  simp only [List.append_assoc, List.cons_append]

/-- The earlier date comes first; of the same date, what comes first behind it. -/
theorem Date.text_append_lt {d d' : Date} (h : FourDigits d.year) (h' : FourDigits d'.year)
    {s t : List Char} (hlt : d.Precedes d' ∨ d = d' ∧ s < t) : d.text ++ s < d'.text ++ t := by
  obtain hlt | ⟨rfl, hlt⟩ := hlt
  · have := h.1
    rw [text_append h, text_append h']
    refine padded_append_lt h'.toNat_lt ?_
    rcases hlt with hyear | ⟨hyear, hrest⟩
    · exact .inl (by omega)
    refine .inr ⟨by rw [hyear], cons_lt_cons (padded_append_lt d'.month_lt ?_)⟩
    rcases hrest with hmonth | ⟨hmonth, hday⟩
    · exact .inl hmonth
    · exact .inr ⟨hmonth, cons_lt_cons (padded_append_lt d'.day_lt (.inl hday))⟩
  · exact List.append_left_lt hlt

namespace Timestamp

/-- Within a day the earlier millisecond comes first. A leap second is the one after second 59. -/
theorem clockText_lt {t t' : Timestamp}
    (h : t.secondOfDay < t'.secondOfDay ∨
      t.secondOfDay = t'.secondOfDay ∧ t.nanos / 1000000 < t'.nanos / 1000000) :
    t.clockText < t'.clockText := by
  have hhour : t.hour = t.secondOfDay / 3600 := rfl
  have hminute : t.minute = t.secondOfDay / 60 % 60 := rfl
  have hmilli : t.milli = t.nanos % 1000000000 / 1000000 := rfl
  have hhour' : t'.hour = t'.secondOfDay / 3600 := rfl
  have hminute' : t'.minute = t'.secondOfDay / 60 % 60 := rfl
  have hmilli' : t'.milli = t'.nanos % 1000000000 / 1000000 := rfl
  have hnanos := t.nanos_lt
  have hnanos' := t'.nanos_lt
  have hsecond := t.second_eq
  have hsecond' := t'.second_eq
  simp only [nanosPerSecond] at hnanos hnanos' hsecond hsecond'
  have hfields : t.hour < t'.hour ∨ t.hour = t'.hour ∧ (t.minute < t'.minute ∨
      t.minute = t'.minute ∧ (t.second < t'.second ∨
        t.second = t'.second ∧ t.milli < t'.milli)) := by
    omega
  unfold clockText
  refine cons_lt_cons (padded_append_lt t'.hour_lt_pow (hfields.imp_right (And.imp_right ?_)))
  intro hfields
  refine cons_lt_cons (padded_append_lt t'.minute_lt_pow (hfields.imp_right (And.imp_right ?_)))
  intro hfields
  refine cons_lt_cons (padded_append_lt t'.second_lt_pow (hfields.imp_right (And.imp_right ?_)))
  intro hmillis
  exact cons_lt_cons (padded_append_lt t'.milli_lt (.inl hmillis))

/-- The earlier millisecond comes first. -/
theorem text_lt {t t' : Timestamp} (h : FourDigits t.date.year) (h' : FourDigits t'.date.year)
    (hlt : t.seconds < t'.seconds ∨
      t.seconds = t'.seconds ∧ t.nanos / 1000000 < t'.nanos / 1000000) : t.text < t'.text := by
  have hof : (t.secondOfDay : Int) = t.seconds % 86400 := by unfold secondOfDay; omega
  have hof' : (t'.secondOfDay : Int) = t'.seconds % 86400 := by unfold secondOfDay; omega
  have hday : t.dayNumber < t'.dayNumber ∨ t.dayNumber = t'.dayNumber ∧
      (t.secondOfDay < t'.secondOfDay ∨
        t.secondOfDay = t'.secondOfDay ∧ t.nanos / 1000000 < t'.nanos / 1000000) := by
    unfold dayNumber
    omega
  rw [text_eq_append, text_eq_append]
  refine Date.text_append_lt h h' (hday.imp ?_ (And.imp ?_ clockText_lt))
  · exact (Date.ofDayNumber_precedes_iff _ _).2
  · exact congrArg Date.ofDayNumber

end Timestamp

end BucketDigest.Time
