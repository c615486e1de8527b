import Mathlib.Data.Prod.Lex
import BucketDigest.Proofs.Aggregation.Coarsening
import BucketDigest.Proofs.Collation.CodePoint
import BucketDigest.Proofs.Time.Spelling
import BucketDigest.Proofs.Time.Writing

/-!
# Labels and periods

A date granularity cuts the time of UTC into periods: years, months, days or milliseconds. Every
value that names a time starts at an instant (`Moment.start`), and its label is a name of the period
that this instant lies in, however the value was written.

* `DateGranularity.period`: the periods, numbered in the order of time (`period_mono`).
* `DateGranularity.Labels`: a label, the only value that the text spells, and its other spellings.
* `labels_identify_periods`: labels are the same just if the periods are.
* `labels_follow_time`: within the years 0 to 9999 labels are in the order of the periods.
-/
namespace BucketDigest

open Numeral (padded)
open Time (Moment Date Timestamp FourDigits isLeap monthLengths daysBefore daysBeforeYear
  epochDay)

/-! ## The instant at which a value starts -/

/-- Midnight at the start of a day. -/
def Time.Timestamp.midnight (dayNumber : Int) : Timestamp where
  seconds := dayNumber * 86400
  nanos := 0
  nanos_lt := by decide
  last_of_minute h := absurd h (by decide)

theorem Time.Timestamp.date_midnight (d : Date) : (midnight d.dayNumber).date = d := by
  have hday : (midnight d.dayNumber).dayNumber = d.dayNumber :=
    Int.mul_ediv_cancel _ (by decide)
  unfold date
  rw [hday, Date.ofDayNumber_dayNumber]

namespace Time.Moment

/-- The number of the first day of a value. -/
def firstDay : Moment → Int
  | .year y => daysBeforeYear y - epochDay
  | .month y m => daysBeforeYear y + (daysBefore (monthLengths (isLeap y)) (m - 1) : Nat) - epochDay
  | .day d => d.dayNumber
  | .instant t => t.dayNumber

/-- The first instant of a value: years, months and days start at midnight. -/
def start : Moment → Timestamp
  | .instant t => t
  | m => .midnight m.firstDay

theorem monthLength_pos (year : Int) {month : Nat} (hpos : 1 ≤ month) (hle : month ≤ 12) :
    1 ≤ monthLength year month := by
  unfold monthLength
  generalize isLeap year = leap
  match month, hpos, hle with
  | 1, _, _ | 2, _, _ | 3, _, _ | 4, _, _ | 5, _, _ | 6, _, _ | 7, _, _ | 8, _, _ | 9, _, _
  | 10, _, _ | 11, _, _ | 12, _, _ => cases leap <;> decide

theorem date_start_month (y m : Nat) (hpos : 1 ≤ m) (hle : m ≤ 12) :
    (start (.month y m)).date =
      ⟨y, m, 1, hpos, hle, Nat.le_refl 1, monthLength_pos y hpos hle⟩ := by
  rw [← Timestamp.date_midnight ⟨y, m, 1, hpos, hle, Nat.le_refl 1, monthLength_pos y hpos hle⟩]
  refine congrArg (fun n => (Timestamp.midnight n).date) ?_
  dsimp only [firstDay, Date.dayNumber]
  omega

theorem date_start_year (y : Nat) : (start (.year y)).date =
    ⟨y, 1, 1, Nat.le_refl 1, by decide, Nat.le_refl 1,
      monthLength_pos y (Nat.le_refl 1) (by decide)⟩ := by
  rw [← date_start_month y 1 (Nat.le_refl 1) (by decide)]
  refine congrArg (fun n => (Timestamp.midnight n).date) ?_
  dsimp only [firstDay]
  rw [Nat.sub_self, daysBefore_zero]
  omega

theorem year_start {raw : String} {m : Moment} (h : read? raw = some m) :
    m.start.date.year = m.yearNumber := by
  cases m with
  | year y => rw [date_start_year]; rfl
  | month y k =>
    obtain ⟨hpos, hle⟩ := month_of_read? h
    rw [date_start_month y k hpos hle]
    rfl
  | day d => exact congrArg Date.year (Timestamp.date_midnight d)
  | instant t => rfl

end Time.Moment

/-! ## Periods -/

namespace DateGranularity

/-- The number of the period that an instant lies in. Years count by themselves, months within their
year, days from 1 January 1970, and milliseconds within their second, of which a leap second is the
second thousand. -/
def period : DateGranularity → Timestamp → Int ×ₗ Nat
  | .yearly, t => toLex (t.date.year, 0)
  | .monthly, t => toLex (t.date.year, t.date.month)
  | .daily, t => toLex (t.dayNumber, 0)
  | .individual, t => toLex (t.seconds, t.nanos / 1000000)

/-- Periods are numbered in the order of time. -/
theorem period_mono (g : DateGranularity) {t t' : Timestamp}
    (h : toLex (t.seconds, t.nanos) ≤ toLex (t'.seconds, t'.nanos)) : g.period t ≤ g.period t' := by
  rw [Prod.Lex.toLex_le_toLex] at h
  have hday : t.dayNumber ≤ t'.dayNumber := by
    unfold Timestamp.dayNumber
    omega
  have hdate : t.date = t'.date ∨ t.date.Precedes t'.date := by
    rcases Int.lt_or_eq_of_le hday with hlt | heq
    · exact .inr ((Date.ofDayNumber_precedes_iff _ _).2 hlt)
    · exact .inl (congrArg Date.ofDayNumber heq)
  cases g with
  | yearly | monthly =>
    refine Prod.Lex.toLex_le_toLex.2 ?_
    dsimp only
    rcases hdate with heq | hyear | ⟨hyear, hrest⟩
    · rw [heq]
      exact .inr ⟨rfl, Nat.le_refl _⟩
    · exact .inl hyear
    · exact .inr ⟨hyear, by omega⟩
  | daily | individual =>
    refine Prod.Lex.toLex_le_toLex.2 ?_
    dsimp only
    omega

/-! ## Labels of instants -/

/-- The label of an instant. -/
def textAt (g : DateGranularity) (t : Timestamp) : List Char :=
  match g with
  | .yearly => yearLabel t.date.year
  | .monthly => yearLabel t.date.year ++ '-' :: padded 2 t.date.month
  | .daily => t.date.text
  | .individual => t.text

/-- A value has the label of the instant at which it starts. -/
theorem eq_textAt_of_text? {g : DateGranularity} {raw : String} {m : Moment}
    (hread : Moment.read? raw = some m) {text : List Char} (h : g.text? m = some text) :
    text = g.textAt m.start := by
  cases g with
  | yearly =>
    cases h
    rw [textAt, Moment.year_start hread]
  | monthly =>
    obtain ⟨month, hmonth, rfl⟩ := Option.map_eq_some_iff.1 h
    have hsame : m.start.date.month = month := by
      cases m with
      | year y => cases hmonth
      | month y k =>
        cases hmonth
        obtain ⟨hpos, hle⟩ := Moment.month_of_read? hread
        rw [Moment.date_start_month _ _ hpos hle]
      | day d => cases hmonth; exact congrArg Date.month (Timestamp.date_midnight d)
      | instant t => cases hmonth; rfl
    rw [textAt, Moment.year_start hread, hsame]
  | daily =>
    obtain ⟨d, hd, rfl⟩ := Option.map_eq_some_iff.1 h
    cases m with
    | year y => cases hd
    | month y k => cases hd
    | day d => cases hd; exact congrArg Date.text (Timestamp.date_midnight d).symm
    | instant t => cases hd; rfl
  | individual =>
    obtain ⟨t, ht, rfl⟩ := Option.map_eq_some_iff.1 h
    cases m <;> cases ht
    rfl

/-- A text has a label at a granularity: it spells one value, the label is that of the instant at
which this value starts, and every other spelling of the value has the same label. -/
structure Labels (g : DateGranularity) (raw : String) (m : Moment) (label : String) : Prop where
  read : Moment.read? raw = some m
  spelling_iff (w : Moment) : Moment.Spelling raw.toList w ↔ w = m
  label_eq : label = String.ofList (g.textAt m.start)
  respelled (raw' : String) : Moment.Spelling raw'.toList m → g.label raw' = .ok label

theorem exists_labels {g : DateGranularity} {raw label : String} (h : g.label raw = .ok label) :
    ∃ m, g.Labels raw m label := by
  obtain ⟨m, text, hread, htext, rfl⟩ := label_eq_ok_iff.1 h
  have hspelling : Moment.Spelling raw.toList m := Moment.read?_eq_some_iff_spelling.1 hread
  refine ⟨m, hread, fun w => ⟨fun hw => hw.unique hspelling, ?_⟩, ?_, fun raw' hraw' => ?_⟩
  · rintro rfl
    exact hspelling
  · rw [eq_textAt_of_text? hread htext]
  · exact label_eq_ok_iff.2 ⟨m, text, Moment.read?_eq_some_iff_spelling.2 hraw', htext, rfl⟩

theorem yearLabel_injective {y y' : Int} (h : yearLabel y = yearLabel y') : y = y' := by
  unfold yearLabel at h
  split at h <;> split at h
  · have := Numeral.padded_injective (List.cons.inj h).2
    omega
  · exact absurd h.symm (Time.padded_ne_cons rfl _)
  · exact absurd h (Time.padded_ne_cons rfl _)
  · have := Numeral.padded_injective h
    omega

/-- Instants have the same label just if they lie in the same period. -/
theorem textAt_eq_iff (g : DateGranularity) (t t' : Timestamp) :
    g.textAt t = g.textAt t' ↔ g.period t = g.period t' := by
  cases g with
  | yearly =>
    refine ⟨fun h => congrArg (fun y => toLex (y, 0)) (yearLabel_injective h), fun h => ?_⟩
    exact congrArg yearLabel (congrArg (fun p => (ofLex p).1) h)
  | monthly =>
    constructor
    · intro h
      obtain ⟨hyear, hmonth⟩ := Time.append_padded_inj (by decide) t.date.month_lt
        t'.date.month_lt h
      rw [period, period, yearLabel_injective hyear, hmonth]
    · intro h
      have hyear : t.date.year = t'.date.year := congrArg (fun p => (ofLex p).1) h
      have hmonth : t.date.month = t'.date.month := congrArg (fun p => (ofLex p).2) h
      rw [textAt, textAt, hyear, hmonth]
  | daily =>
    constructor
    · intro h
      have hdate : t.date = t'.date := Date.text_injective h
      have hday : t.dayNumber = t'.dayNumber := by
        rw [← Time.dayNumber_ofDayNumber t.dayNumber, ← Time.dayNumber_ofDayNumber t'.dayNumber]
        exact congrArg Date.dayNumber hdate
      exact congrArg (fun n => toLex (n, 0)) hday
    · intro h
      have hday : t.dayNumber = t'.dayNumber := congrArg (fun p => (ofLex p).1) h
      exact congrArg (fun n => (Date.ofDayNumber n).text) hday
  | individual =>
    refine (Timestamp.text_eq_iff t t').trans ⟨fun h => ?_, fun h => ?_⟩
    · have hseconds : t.seconds = t'.seconds := (Timestamp.ext_iff.1 h).1
      have hnanos : t.nanos / 1000000 * 1000000 = t'.nanos / 1000000 * 1000000 :=
        (Timestamp.ext_iff.1 h).2
      rw [period, period, hseconds, Nat.mul_right_cancel (by decide) hnanos]
    · have hseconds : t.seconds = t'.seconds := congrArg (fun p => (ofLex p).1) h
      have hnanos : t.nanos / 1000000 = t'.nanos / 1000000 := congrArg (fun p => (ofLex p).2) h
      exact Timestamp.ext hseconds (congrArg (· * 1000000) hnanos)

/-- Within the years 0 to 9999 the label of an earlier period comes first. -/
theorem textAt_lt (g : DateGranularity) {t t' : Timestamp} (hyear : FourDigits t.date.year)
    (hyear' : FourDigits t'.date.year) (h : g.period t < g.period t') :
    g.textAt t < g.textAt t' := by
  have hnonneg := hyear.1
  cases g with
  | yearly =>
    have hlt := (Prod.Lex.toLex_lt_toLex.1 h).resolve_right fun h => absurd h.2 (Nat.lt_irrefl 0)
    have := Numeral.padded_append_lt (show t.date.year.toNat < t'.date.year.toNat by omega)
      hyear'.toNat_lt [] []
    rwa [List.append_nil, List.append_nil, ← yearLabel_of_fourDigits hyear,
      ← yearLabel_of_fourDigits hyear'] at this
  | monthly =>
    rw [textAt, textAt, yearLabel_of_fourDigits hyear, yearLabel_of_fourDigits hyear']
    refine Time.padded_append_lt hyear'.toNat_lt ?_
    rcases Prod.Lex.toLex_lt_toLex.1 h with hlt | ⟨heq, hlt⟩
    · exact .inl (by dsimp only at hlt; omega)
    · refine .inr ⟨congrArg Int.toNat heq, Time.cons_lt_cons ?_⟩
      have := Numeral.padded_append_lt hlt t'.date.month_lt [] []
      rwa [List.append_nil, List.append_nil] at this
  | daily =>
    have hlt := (Prod.Lex.toLex_lt_toLex.1 h).resolve_right fun h => absurd h.2 (Nat.lt_irrefl 0)
    have := Date.text_append_lt hyear hyear' (s := []) (t := [])
      (.inl ((Date.ofDayNumber_precedes_iff _ _).2 hlt))
    rwa [List.append_nil, List.append_nil] at this
  | individual => exact Timestamp.text_lt hyear hyear' (Prod.Lex.toLex_lt_toLex.1 h)

theorem textAt_lt_iff (g : DateGranularity) {t t' : Timestamp} (hyear : FourDigits t.date.year)
    (hyear' : FourDigits t'.date.year) : g.textAt t < g.textAt t' ↔ g.period t < g.period t' := by
  refine ⟨fun hlt => ?_, textAt_lt g hyear hyear'⟩
  rcases lt_trichotomy (g.period t) (g.period t') with h | h | h
  · exact h
  · rw [(g.textAt_eq_iff t t').2 h] at hlt
    exact absurd hlt (List.lt_irrefl _)
  · exact absurd hlt (List.lt_asymm (textAt_lt g hyear' hyear h))

end DateGranularity

/-! ## Labels of values -/

/-- **Periods.** Two values that have labels at a granularity have the same one just if they start
in the same period of it, whatever their years and however they are written. -/
theorem DateGranularity.labels_identify_periods {g : DateGranularity}
    {raw raw' label label' : String} (h : g.label raw = .ok label)
    (h' : g.label raw' = .ok label') :
    ∃ m m', g.Labels raw m label ∧ g.Labels raw' m' label' ∧
      (label = label' ↔ g.period m.start = g.period m'.start) := by
  obtain ⟨m, hm⟩ := exists_labels h
  obtain ⟨m', hm'⟩ := exists_labels h'
  refine ⟨m, m', hm, hm', ?_⟩
  rw [hm.label_eq, hm'.label_eq, ← textAt_eq_iff, String.ofList_inj]

/-- Half a second into the leap second of 2016, without an offset and in the clocks of an hour
further east. -/
theorem DateGranularity.labels_identify_periods_of_leap_second :
    let raw := "2016-12-31T23:59:60.5"
    let raw' := "2017-01-01t00:59:60.5004+01:00"
    let label := "2016-12-31T23:59:60.500Z"
    DateGranularity.label .individual raw = .ok label ∧
      DateGranularity.label .individual raw' = .ok label ∧
      ∃ m m', DateGranularity.Labels .individual raw m label ∧
        DateGranularity.Labels .individual raw' m' label ∧
        DateGranularity.period .individual m.start =
          DateGranularity.period .individual m'.start := by
  intro raw raw' label
  have h : DateGranularity.label .individual raw = .ok label := by decide +kernel
  have h' : DateGranularity.label .individual raw' = .ok label := by decide +kernel
  obtain ⟨m, m', hm, hm', hiff⟩ := labels_identify_periods h h'
  exact ⟨h, h', m, m', hm, hm', hiff.1 rfl⟩

/-- **Order of time.** Of two values in the years 0 to 9999 that have labels at a granularity, the
label of the first is not behind that of the second, in the order of octets, just if the first does
not start in a later period. So what starts earlier is never labelled behind what starts later. -/
theorem DateGranularity.labels_follow_time {g : DateGranularity} {raw raw' label label' : String}
    (h : g.label raw = .ok label) (h' : g.label raw' = .ok label') :
    ∃ m m', g.Labels raw m label ∧ g.Labels raw' m' label' ∧
      (FourDigits m.start.date.year → FourDigits m'.start.date.year →
        (Collation.ascii.inOrder label label' = true ↔ g.period m.start ≤ g.period m'.start) ∧
        (toLex (m.start.seconds, m.start.nanos) ≤ toLex (m'.start.seconds, m'.start.nanos) →
          Collation.ascii.inOrder label label' = true)) := by
  obtain ⟨m, hm⟩ := exists_labels h
  obtain ⟨m', hm'⟩ := exists_labels h'
  refine ⟨m, m', hm, hm', fun hyear hyear' => ?_⟩
  have hiff : Collation.ascii.inOrder label label' = true ↔
      g.period m.start ≤ g.period m'.start := by
    rw [hm.label_eq, hm'.label_eq, Collation.inOrder_ascii_iff, textAt_lt_iff g hyear' hyear,
      not_lt]
  exact ⟨hiff, fun hle => hiff.2 (g.period_mono hle)⟩

/-- A leap second, given without an offset, is not behind the minute that follows it. -/
theorem DateGranularity.labels_follow_time_after_leap_second :
    let raw := "2016-12-31T23:59:60.9"
    let raw' := "2017-01-01T01:00:00+01:00"
    let label := "2016-12-31T23:59:60.900Z"
    let label' := "2017-01-01T00:00:00.000Z"
    DateGranularity.label .individual raw = .ok label ∧
      DateGranularity.label .individual raw' = .ok label' ∧
      ∃ m m', DateGranularity.Labels .individual raw m label ∧
        DateGranularity.Labels .individual raw' m' label' ∧
        FourDigits m.start.date.year ∧ FourDigits m'.start.date.year ∧
        DateGranularity.period .individual m.start ≤
          DateGranularity.period .individual m'.start := by
  intro raw raw' label label'
  have h : DateGranularity.label .individual raw = .ok label := by decide +kernel
  have h' : DateGranularity.label .individual raw' = .ok label' := by decide +kernel
  obtain ⟨m, m', hm, hm', hiff⟩ := labels_follow_time h h'
  have hyears : (Moment.read? raw).map (·.start.date.year) = some 2016 ∧
      (Moment.read? raw').map (·.start.date.year) = some 2017 := by
    decide +kernel
  rw [hm.read, hm'.read, Option.map_some, Option.map_some, Option.some_inj,
    Option.some_inj] at hyears
  have hyear : FourDigits m.start.date.year := by unfold FourDigits; omega
  have hyear' : FourDigits m'.start.date.year := by unfold FourDigits; omega
  exact ⟨h, h', m, m', hm, hm', hyear, hyear', (hiff hyear hyear').1.1 (by decide +kernel)⟩

end BucketDigest
