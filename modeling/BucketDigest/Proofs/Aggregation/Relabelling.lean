import BucketDigest.Proofs.Aggregation.Period
import BucketDigest.Proofs.Time.Form

/-!
# Labels that are labelled again

The label of a date-like value can be given back to a granularity as coarse or coarser, and leads to
the same label as the value, if the year of the value has four digits or if the label is a date. All
other labels of years without four digits are refused: yearly and monthly ones because the year in
them does not have four digits, and timestamps because a year with a sign is not RFC 3339.

* `Moment.read?_yearLabel_append`, `Moment.read?_text_of_not_fourDigits`: what is refused.

Main statement: `labels_feed_back_iff`.
-/
namespace BucketDigest

open Numeral (padded)
open Time (Moment Date Timestamp FourDigits)

namespace Time

namespace Moment

/-! ## Years of values that are read -/

theorem inRange_of_takeDate? {cs rest : List Char} {d : Date}
    (h : takeDate? cs = some (d, rest)) : InRange d.year := by
  unfold takeDate? at h
  simp only [Option.bind_eq_bind, Option.bind_eq_some_iff] at h
  obtain ⟨⟨y, _⟩, -, _, -, ⟨m, _⟩, -, _, -, ⟨k, _⟩, -, d', hdate, h⟩ := h
  cases h
  exact (Date.of?_eq_some hdate).2

/-- The year of a day or an instant that has been read can be written. -/
theorem inRange_of_read? {raw : String} {m : Moment} (h : read? raw = some m) {d : Date}
    (hd : m.date? = some d) : InRange d.year := by
  obtain ⟨t, hz, rfl⟩ | ⟨t, hu, rfl⟩ | ⟨d', hday, rfl⟩ | hperiod := read?_cases h
  · cases hd
    obtain ⟨hlow, hhigh⟩ := Rfc3339.year_of_read (read_of_readZoned? hz)
    unfold InRange firstYear lastYear
    omega
  · cases hd
    have hu := whole?_eq_some hu
    simp only [Option.bind_eq_bind, Option.bind_eq_some_iff] at hu
    obtain ⟨⟨d, _⟩, hdate, _, -, ⟨clock, _⟩, -, hu⟩ := hu
    cases hu
    rw [Timestamp.date_ofLocal]
    exact inRange_of_takeDate? hdate
  · cases hd
    exact inRange_of_takeDate? (whole?_eq_some hday)
  · obtain ⟨y, rfl⟩ | ⟨y, k, rfl, -⟩ := readPeriod?_cases hperiod <;> cases hd

end Moment

/-! ## What four digits stand in front of -/

/-- Four digits, and then nothing or a hyphen. -/
def StartsWithYear (cs : List Char) : Prop :=
  ∃ ds rest, cs = ds ++ rest ∧ ds.length = 4 ∧ (∀ c ∈ ds, c.isDigit = true) ∧
    (rest = [] ∨ ∃ t, rest = '-' :: t)

theorem StartsWithYear.isDigit_head {c : Char} {cs : List Char} (h : StartsWithYear (c :: cs)) :
    c.isDigit = true := by
  obtain ⟨ds, rest, hsplit, hlen, hds, -⟩ := h
  obtain _ | ⟨d, ds⟩ := ds
  · cases hlen
  · rw [(List.cons.inj hsplit).1]
    exact hds d (List.mem_cons_self ..)

theorem Rfc3339.startsWithYear_of_read {cs : List Char} {t : Timestamp}
    (h : read (String.ofList cs) = .ok t) : StartsWithYear cs := by
  obtain ⟨ys, _, _, _, _, _, _, _, _, _, _, _, _, _, htext, ⟨⟨hlen, hys⟩, -⟩, -⟩ :=
    exists_parts_of_read h
  rw [String.toList_ofList] at htext
  exact ⟨ys, _, htext, hlen, hys, .inr ⟨_, rfl⟩⟩

namespace Moment

theorem readZoned?_eq_none {cs : List Char} (h : ¬StartsWithYear cs) :
    readZoned? (String.ofList cs) = none := by
  unfold readZoned?
  cases hread : Rfc3339.read (String.ofList cs) with
  | error f => rfl
  | ok t => exact absurd (Rfc3339.startsWithYear_of_read hread) h

theorem readPeriod?_eq_none {cs : List Char} (h : ¬StartsWithYear cs) :
    readPeriod? (String.ofList cs) = none := by
  have hnatural : ∀ {ds : List Char} {rest n}, ds.length = 4 →
      (rest = [] ∨ ∃ t, rest = '-' :: t) → cs = ds ++ rest → Numeral.natural? ds ≠ some n := by
    intro ds rest n hlen hrest hsplit hn
    exact h ⟨ds, rest, hsplit, hlen, (Numeral.natural?_eq_some_iff.1 hn).1.2, hrest⟩
  unfold readPeriod?
  rw [String.toList_ofList]
  split
  · next a b c d =>
    cases hn : Numeral.natural? [a, b, c, d] with
    | none => rfl
    | some n => exact absurd hn (hnatural rfl (.inl rfl) (List.append_nil _).symm)
  · next a b c d e f =>
    cases hn : Numeral.natural? [a, b, c, d] with
    | none => rfl
    | some n => exact absurd hn (hnatural rfl (.inr ⟨[e, f], rfl⟩) rfl)
  · rfl

/-- What does not start with a year of four digits is a date or a timestamp without an offset, if
anything. -/
theorem read?_of_not_startsWithYear {cs : List Char} (h : ¬StartsWithYear cs) :
    read? (String.ofList cs) = ((readUnzoned? (String.ofList cs)).map .instant).or
      ((readDay? (String.ofList cs)).map .day) := by
  unfold read?
  rw [readZoned?_eq_none h, readPeriod?_eq_none h, Option.map_none, Option.none_or, Option.or_none]

/-! ## Timestamps that are refused -/

theorem not_startsWithYear_yearText {year : Int} (h : ¬FourDigits year) (s : List Char) :
    ¬StartsWithYear (yearText year ++ s) := by
  rw [yearText_of_not_fourDigits h, List.cons_append]
  intro hstart
  have hdigit := hstart.isDigit_head
  rw [isDigit_yearSign] at hdigit
  cases hdigit

theorem takeClock?_clockText (t : Timestamp) :
    takeClock? (t.clockText.tail) = some (t.clock, ['Z']) := by
  have hclock : Clock.of? t.hour t.minute t.second (t.milli * 1000000) = some t.clock :=
    Rfc3339.clock_of? t.clock
  have hfraction : Rfc3339.fraction ('.' :: (padded 3 t.milli ++ ['Z'])) =
      .ok (t.milli * 1000000, ['Z']) := Rfc3339.fraction_padded t.milli_lt rfl []
  unfold takeClock? Timestamp.clockText
  simp only [List.tail_cons, takeNumber?_padded (show 0 < 2 by decide) t.hour_lt_pow,
    takeNumber?_padded (show 0 < 2 by decide) t.minute_lt_pow,
    takeNumber?_padded (show 0 < 2 by decide) t.second_lt_pow, Option.bind_eq_bind,
    Option.bind_some, takeMark?, if_true, hfraction, Except.toOption, hclock, Option.pure_def]

/-- A timestamp of a year with a sign is not read. -/
theorem read?_text_of_not_fourDigits {t : Timestamp} (h : ¬FourDigits t.date.year)
    (hrange : InRange t.date.year) : read? (String.ofList t.text) = none := by
  have htake : takeDate? t.text = some (t.date, t.clockText) := by
    rw [t.text_eq_append]
    exact takeDate?_text_append hrange _
  have hmark : takeMark? 'T' t.clockText = some t.clockText.tail := rfl
  have hunzoned : readUnzoned? (String.ofList t.text) = none := by
    unfold readUnzoned?
    rw [String.toList_ofList, htake]
    simp only [Option.bind_eq_bind, Option.bind_some, hmark, takeClock?_clockText, Option.pure_def]
    rfl
  have hday : readDay? (String.ofList t.text) = none := by
    unfold readDay?
    rw [String.toList_ofList, htake]
    rfl
  have hstart : ¬StartsWithYear t.text := by
    rw [t.text_eq_append]
    unfold Date.text
    rw [List.append_assoc, List.append_assoc]
    exact not_startsWithYear_yearText h _
  rw [read?_of_not_startsWithYear hstart, hunzoned, hday]
  rfl

/-! ## Yearly and monthly labels that are refused -/

/-- The year in a label starts with a minus or has at least five digits, if it does not have
four. -/
theorem yearLabel_cases {year : Int} (h : ¬FourDigits year) :
    (∃ n : Nat, year = -(n : Int) ∧ yearLabel year = '-' :: padded 3 n) ∨
      ∃ ds c es, ds.length = 4 ∧ (∀ d ∈ ds, d.isDigit = true) ∧ c.isDigit = true ∧
        yearLabel year = ds ++ c :: es := by
  unfold yearLabel
  split
  · exact .inl ⟨year.natAbs, by omega, rfl⟩
  · have hlen : 4 < (padded 4 year.natAbs).length :=
      Numeral.lt_length_padded (by decide) (by unfold FourDigits at h; omega)
    have hdigits : ∀ d ∈ padded 4 year.natAbs, d.isDigit = true :=
      fun d hd => Numeral.isDigit_of_mem_padded hd
    refine .inr ⟨(padded 4 year.natAbs).take 4, (padded 4 year.natAbs)[4],
      (padded 4 year.natAbs).drop 5, List.length_take_of_le (Nat.le_of_lt hlen),
      fun d hd => hdigits d (List.mem_of_mem_take hd), hdigits _ (List.getElem_mem hlen), ?_⟩
    rw [← List.drop_eq_getElem_cons hlen, List.take_append_drop]

theorem not_startsWithYear_yearLabel {year : Int} (h : ¬FourDigits year) (s : List Char) :
    ¬StartsWithYear (yearLabel year ++ s) := by
  intro hstart
  obtain ⟨n, -, hlabel⟩ | ⟨ds, c, es, hlen, -, hc, hlabel⟩ := yearLabel_cases h
  · rw [hlabel] at hstart
    have hdigit : '-'.isDigit = true := hstart.isDigit_head
    cases hdigit
  · obtain ⟨ds', rest, hsplit, hlen', -, hrest⟩ := hstart
    rw [hlabel, List.append_assoc] at hsplit
    obtain ⟨-, rfl⟩ := List.append_inj hsplit (hlen.trans hlen'.symm)
    obtain hnil | ⟨t, ht⟩ := hrest
    · cases hnil
    · rw [(List.cons.inj ht).1] at hc
      cases hc

/-- No date is found in a year, nor in a year and a month. -/
theorem takeDate?_yearLabel {year : Int} (h : ¬FourDigits year) {s : List Char}
    (hs : s = [] ∨ ∃ k, k < 10 ^ 2 ∧ s = '-' :: padded 2 k) :
    takeDate? (yearLabel year ++ s) = none := by
  unfold takeDate?
  obtain ⟨n, hyear, hlabel⟩ | ⟨ds, c, es, hlen, hds, hc, hlabel⟩ := yearLabel_cases h
  · have hmark : ∀ c ∈ s.head?, c.isDigit = false := by
      obtain rfl | ⟨k, -, rfl⟩ := hs
      · exact nofun
      · intro c hc
        cases hc
        rfl
    rw [hlabel, takeYear?_sign (.inl ⟨rfl, hyear⟩) hmark]
    obtain rfl | ⟨k, hk, rfl⟩ := hs
    · rfl
    · have hmonth := takeNumber?_padded (show 0 < 2 by decide) hk []
      rw [List.append_nil] at hmonth
      simp only [Option.bind_eq_bind, Option.bind_some, takeMark?, if_true, hmonth,
        Option.bind_none]
  · have hne : c ≠ '-' := by
      rintro rfl
      cases hc
    rw [hlabel, List.append_assoc, takeYear?_append hlen hds]
    simp only [Option.bind_eq_bind, Option.bind_some, List.cons_append, takeMark?, if_neg hne,
      Option.bind_none]

/-- A year without four digits is not read, nor a month of one. -/
theorem read?_yearLabel_append {year : Int} (h : ¬FourDigits year) {s : List Char}
    (hs : s = [] ∨ ∃ k, k < 10 ^ 2 ∧ s = '-' :: padded 2 k) :
    read? (String.ofList (yearLabel year ++ s)) = none := by
  have hdate := takeDate?_yearLabel h hs
  have hunzoned : readUnzoned? (String.ofList (yearLabel year ++ s)) = none :=
    readUnzoned?_of_takeDate? (by rw [hdate]; exact nofun)
  have hday : readDay? (String.ofList (yearLabel year ++ s)) = none := by
    unfold readDay?
    rw [String.toList_ofList, hdate]
    rfl
  rw [read?_of_not_startsWithYear (not_startsWithYear_yearLabel h s), hunzoned, hday]
  rfl

end Moment

end Time

/-! ## Labels of labels -/

namespace DateGranularity

variable {fine coarse : DateGranularity} {raw label : String}

/-- The label of a value at a granularity as coarse as one at which it has a label, or coarser. -/
theorem exists_text?_of_le {m : Moment} (hle : coarse ≤ fine) {text : List Char}
    (h : fine.text? m = some text) : ∃ text', coarse.text? m = some text' := by
  cases htext : coarse.text? m with
  | some text' => exact ⟨text', rfl⟩
  | none =>
    have hlt : m.precision.rank < coarse.rank := (text?_eq_none_iff coarse m).1 htext
    have hnone := (text?_eq_none_iff fine m).2 (Nat.lt_of_lt_of_le hlt hle)
    rw [hnone] at h
    cases h

/-- A daily label is a date, and no coarser label tells it from the value. -/
theorem text?_day {m : Moment} {d : Date} (hd : m.date? = some d) (hle : coarse ≤ .daily) :
    coarse.text? (.day d) = coarse.text? m := by
  cases m with
  | year y => cases hd
  | month y k => cases hd
  | day d' => cases hd; rfl
  | instant t =>
    cases hd
    cases coarse with
    | yearly | monthly | daily => rfl
    | individual => exact absurd hle (by decide)

/-- A label with a year that does not have four digits names no time, unless it is a date. -/
theorem read?_eq_none_of_not_fourDigits {m : Moment} (hread : Moment.read? raw = some m)
    (hfine : fine ≠ .daily) (hyear : ¬FourDigits m.yearNumber) {text : List Char}
    (h : fine.text? m = some text) : Moment.read? (String.ofList text) = none := by
  cases fine with
  | yearly =>
    cases h
    have hnone := Moment.read?_yearLabel_append hyear (s := []) (.inl rfl)
    rwa [List.append_nil] at hnone
  | monthly =>
    obtain ⟨month, hmonth, rfl⟩ := Option.map_eq_some_iff.1 h
    obtain ⟨-, hle⟩ := Moment.monthNumber?_range hread hmonth
    exact Moment.read?_yearLabel_append hyear (.inr ⟨month, by omega, rfl⟩)
  | daily => exact absurd rfl hfine
  | individual =>
    obtain ⟨t, ht, rfl⟩ := Option.map_eq_some_iff.1 h
    obtain rfl : m = .instant t := by cases m <;> cases ht; rfl
    exact Moment.read?_text_of_not_fourDigits hyear (Moment.inRange_of_read? hread rfl)

/-- **Labels of labels.** A value that has a label at a granularity has one at every coarser
granularity. The first of them, labelled again, gives the second just if it is a date or the year of
the value has four digits; if not, it is refused as no date at all. -/
theorem labels_feed_back_iff (hle : coarse ≤ fine) (h : fine.label raw = .ok label) :
    ∃ m label', Moment.read? raw = some m ∧ coarse.label raw = .ok label' ∧
      (coarse.label label = .ok label' ↔ fine = .daily ∨ FourDigits m.yearNumber) ∧
      (¬(fine = .daily ∨ FourDigits m.yearNumber) → coarse.label label = .error .notDate) := by
  obtain ⟨m, text, hread, htext, rfl⟩ := label_eq_ok_iff.1 h
  obtain ⟨text', htext'⟩ := exists_text?_of_le hle htext
  have hcoarse : coarse.label raw = .ok (String.ofList text') :=
    label_eq_ok_iff.2 ⟨m, text', hread, htext', rfl⟩
  have hrefused : ¬(fine = .daily ∨ FourDigits m.yearNumber) →
      coarse.label (String.ofList text) = .error .notDate := by
    intro hneither
    obtain ⟨hfine, hyear⟩ := not_or.1 hneither
    unfold DateGranularity.label
    rw [read?_eq_none_of_not_fourDigits hread hfine hyear htext]
  refine ⟨m, _, hread, hcoarse, ⟨fun hsame => ?_, fun heither => ?_⟩, hrefused⟩
  · refine Classical.not_not.1 fun hneither => ?_
    rw [hrefused hneither] at hsame
    cases hsame
  · obtain rfl | hyear := heither
    · obtain ⟨d, hd, rfl⟩ := Option.map_eq_some_iff.1 htext
      refine label_eq_ok_iff.2 ⟨_, text', Moment.read?_day ?_, ?_, rfl⟩
      · exact Moment.inRange_of_read? hread hd
      · rwa [text?_day hd hle]
    · obtain ⟨m', hread', hsame⟩ := read?_text? hread hyear htext
      exact label_eq_ok_iff.2 ⟨m', text', hread', (hsame _ hle).trans htext', rfl⟩

/-- A day of the year -44 has a daily label of full length, and that has the same monthly label. -/
theorem labels_feed_back_of_early_date :
    DateGranularity.label .daily "-44-3-15" = .ok "-0044-03-15" ∧
      ∃ label', DateGranularity.label .monthly "-44-3-15" = .ok label' ∧
        DateGranularity.label .monthly "-0044-03-15" = .ok label' := by
  have hdaily : DateGranularity.label .daily "-44-3-15" = .ok "-0044-03-15" := by
    decide +kernel
  obtain ⟨m, label', -, hcoarse, hiff, -⟩ :=
    labels_feed_back_iff (show DateGranularity.monthly ≤ .daily by decide) hdaily
  exact ⟨hdaily, label', hcoarse, hiff.2 (.inl rfl)⟩

/-- An offset may move a timestamp into the year 10000, whose yearly label is not read again. -/
theorem year_10000_is_not_labelled_again :
    ¬ ∀ (fine coarse : DateGranularity), coarse ≤ fine → ∀ raw label, fine.label raw = .ok label →
      ∃ label', coarse.label raw = .ok label' ∧ coarse.label label = .ok label' := by
  intro h
  have hlabel : DateGranularity.label .yearly "9999-12-31T23:59:59-01:00" = .ok "10000" := by
    decide +kernel
  obtain ⟨label', -, hagain⟩ := h .yearly .yearly (by decide) _ _ hlabel
  have hrefused : DateGranularity.label .yearly "10000" = .error .notDate := by decide +kernel
  rw [hrefused] at hagain
  cases hagain

end DateGranularity

end BucketDigest
