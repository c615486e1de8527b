import BucketDigest.Proofs.Time.Form

/-!
# How date-like values are spelled

Which texts name which values, said without the readers (`Moment.Spelling`). A timestamp with an
offset is RFC 3339, with any fraction. In a timestamp without an offset and in a date, white space
may stand before each number, numbers need not be filled up with zeros, and the year may have a
sign. A month and a year alone have two digits and four.

Each reader takes off the front of a text just what spells the value that it gives, provided that
what follows is not another digit.

* `takeDate?_of_spelling` and `exists_of_takeDate?`, and the like for the parts of a value.
* `Rfc3339.read_eq_ok_iff`: timestamps with an offset.
* `read?_eq_some_iff_spelling`: what is read is what is spelled.
-/
namespace BucketDigest.Time

open Numeral (padded EndsDigits endsDigits_nil endsDigits_cons)

/-! ## Spellings -/

/-- One digit up to `width`, after any white space. -/
def NumberSpelling (width : Nat) (cs : List Char) (n : Nat) : Prop :=
  ∃ blanks ds, cs = blanks ++ ds ∧ (∀ c ∈ blanks, Text.isBlank c = true) ∧
    ds.length ≤ width ∧ (ds ≠ [] ∧ ∀ c ∈ ds, c.isDigit = true) ∧ Nat.ofDigitChars 10 ds 0 = n

/-- A numeral after any white space. Without a sign it has at most four digits. -/
def YearSpelling (cs : List Char) (year : Int) : Prop :=
  ∃ blanks ds, cs = blanks ++ ds ∧ (∀ c ∈ blanks, Text.isBlank c = true) ∧
    Numeral.Denotes ds year ∧ ((∀ c ∈ ds, c.isDigit = true) → ds.length ≤ 4)

/-- A year, a month and a day between hyphens. -/
structure DateSpelling (cs : List Char) (d : Date) : Prop where
  inRange : InRange d.year
  parts : ∃ ys ms ds, cs = ys ++ '-' :: (ms ++ '-' :: ds) ∧ YearSpelling ys d.year ∧
    NumberSpelling 2 ms d.month ∧ NumberSpelling 2 ds d.day

/-- Nothing, or a point and digits, of which nine count. -/
inductive FractionSpelling : List Char → Nat → Prop
  | whole : FractionSpelling [] 0
  | point {ds : List Char} (hne : ds ≠ []) (hds : ∀ c ∈ ds, c.isDigit = true) :
    FractionSpelling ('.' :: ds) (Rfc3339.nanosOf ds)

/-- Hour, minute and second between colons, and a fraction. -/
def ClockSpelling (cs : List Char) (c : Clock) : Prop :=
  ∃ hs is ss fs, cs = hs ++ ':' :: (is ++ ':' :: (ss ++ fs)) ∧ NumberSpelling 2 hs c.hour ∧
    NumberSpelling 2 is c.minute ∧ NumberSpelling 2 ss c.second ∧ FractionSpelling fs c.nanos

/-- How far clocks are ahead of UTC, in minutes. A minus may be a hyphen or the minus sign. -/
inductive OffsetSpelling : List Char → Int → Prop
  | utc {c : Char} (hc : c = 'Z' ∨ c = 'z') : OffsetSpelling [c] 0
  | ahead {hours minutes : Nat} (hhours : hours < 24) (hminutes : minutes < 60) :
    OffsetSpelling ('+' :: (padded 2 hours ++ ':' :: padded 2 minutes))
      (hours * 60 + minutes : Nat)
  | behind {sign : Char} {hours minutes : Nat} (hsign : sign = '-' ∨ sign = '−')
      (hhours : hours < 24) (hminutes : minutes < 60) :
    OffsetSpelling (sign :: (padded 2 hours ++ ':' :: padded 2 minutes))
      (-(hours * 60 + minutes : Nat))

/-- The texts that name a date-like value. -/
inductive Moment.Spelling : List Char → Moment → Prop
  | zoned {d : Date} {mark : Char} {c : Clock} {fs os : List Char} {minutes : Int}
      (hyear : FourDigits d.year) (hmark : mark = 'T' ∨ mark = 't' ∨ mark = ' ')
      (hfraction : FractionSpelling fs c.nanos) (hoffset : OffsetSpelling os minutes) :
    Spelling (Rfc3339.localText d mark c (fs ++ os)) (.instant (.ofLocal d c minutes))
  | unzoned {ds cs : List Char} {d : Date} {c : Clock} (hdate : DateSpelling ds d)
      (hclock : ClockSpelling cs c) : Spelling (ds ++ 'T' :: cs) (.instant (.ofLocal d c 0))
  | day {cs : List Char} {d : Date} (hdate : DateSpelling cs d) : Spelling cs (.day d)
  | month {year month : Nat} (hyear : year < 10 ^ 4) (hmonth : 1 ≤ month ∧ month ≤ 12) :
    Spelling (padded 4 year ++ '-' :: padded 2 month) (.month year month)
  | year {year : Nat} (hyear : year < 10 ^ 4) : Spelling (padded 4 year) (.year year)

theorem IsDigits.eq_padded {n : Nat} {ds : List Char} (h : IsDigits (n + 1) ds) :
    ds = padded (n + 1) (Nat.ofDigitChars 10 ds 0) := by
  have heq := Numeral.eq_padded h.ne_nil h.2
  rwa [h.1] at heq

namespace Moment

/-! ## Numbers -/

theorem takeNumber?_of_spelling {width n : Nat} {cs rest : List Char}
    (h : NumberSpelling width cs n) (hrest : EndsDigits rest) :
    takeNumber? width (cs ++ rest) = some (n, rest) := by
  obtain ⟨blanks, ds, rfl, hblanks, hlen, ⟨hne, hds⟩, rfl⟩ := h
  have htake : ((ds ++ rest).takeWhile Char.isDigit).take width = ds := by
    rw [hrest.takeWhile_append hds, List.take_of_length_le hlen]
  unfold takeNumber?
  rw [List.append_assoc, Text.trimStart_blanks_append hblanks, trimStart_append hne hds]
  simp only [htake, if_neg hne, List.drop_left]

theorem exists_of_takeNumber? {width n : Nat} {cs rest : List Char}
    (h : takeNumber? width cs = some (n, rest)) :
    ∃ front, cs = front ++ rest ∧ NumberSpelling width front n := by
  obtain ⟨blanks, hblanks, hcs⟩ := Text.exists_blanks_append_trimStart cs
  unfold takeNumber? at h
  dsimp only at h
  generalize Text.trimStart cs = trimmed at h hcs
  obtain ⟨after, hafter⟩ : (trimmed.takeWhile Char.isDigit).take width <+: trimmed :=
    (List.take_prefix ..).trans (List.takeWhile_prefix _)
  generalize hds : (trimmed.takeWhile Char.isDigit).take width = ds at h hafter
  split at h
  · cases h
  · next hne =>
    cases h
    refine ⟨blanks ++ ds, ?_, blanks, ds, rfl, hblanks, ?_, ⟨hne, fun c hc => ?_⟩, rfl⟩
    · rw [hcs, ← hafter, List.drop_left, List.append_assoc]
    · rw [← hds]
      exact List.length_take_le ..
    · rw [← hds] at hc
      exact List.mem_takeWhile_imp (List.mem_of_mem_take hc)

theorem exists_of_takeDigits? {n : Nat} {cs rest : List Char}
    (h : takeDigits? cs = some (n, rest)) :
    ∃ ds, cs = ds ++ rest ∧ (ds ≠ [] ∧ ∀ c ∈ ds, c.isDigit = true) ∧
      Nat.ofDigitChars 10 ds 0 = n := by
  unfold takeDigits? at h
  dsimp only at h
  split at h
  · cases h
  · next hne =>
    cases h
    exact ⟨_, List.takeWhile_append_dropWhile.symm, ⟨hne, fun _ => List.mem_takeWhile_imp⟩, rfl⟩

/-! ## Dates -/

theorem takeYear?_of_spelling {cs rest : List Char} {year : Int} (h : YearSpelling cs year)
    (hrest : EndsDigits rest) : takeYear? (cs ++ rest) = some (year, rest) := by
  obtain ⟨blanks, ds, rfl, hblanks, hdenotes, hlen⟩ := h
  have hskip : takeYear? (blanks ++ ds ++ rest) = takeYear? (ds ++ rest) := by
    unfold takeYear?
    rw [List.append_assoc, Text.trimStart_blanks_append hblanks]
  rw [hskip]
  cases hdenotes with
  | unsigned hne hds =>
    have hspelling : NumberSpelling 4 ds (Nat.ofDigitChars 10 ds 0) :=
      ⟨[], ds, rfl, nofun, hlen hds, ⟨hne, hds⟩, rfl⟩
    rw [takeYear?_of_digits hne hds, takeNumber?_of_spelling hspelling hrest, Option.map_some]
  | plus hne hds =>
    show (takeDigits? (_ ++ rest)).map _ = _
    rw [takeDigits?_append hne hds hrest, Option.map_some]
  | minus hne hds =>
    show (takeDigits? (_ ++ rest)).map _ = _
    rw [takeDigits?_append hne hds hrest, Option.map_some]

theorem exists_of_takeYear? {cs rest : List Char} {year : Int}
    (h : takeYear? cs = some (year, rest)) :
    ∃ front, cs = front ++ rest ∧ YearSpelling front year := by
  obtain ⟨blanks, hblanks, hcs⟩ := Text.exists_blanks_append_trimStart cs
  have hsign : ∀ {c : Char} {ds : List Char}, c.isDigit = false →
      (∀ d ∈ c :: ds, d.isDigit = true) → (c :: ds).length ≤ 4 := by
    intro c ds hc hds
    rw [hds c (List.mem_cons_self ..)] at hc
    cases hc
  unfold takeYear? at h
  split at h
  · next t htrimmed =>
    obtain ⟨⟨n, _⟩, hdigits, h⟩ := Option.map_eq_some_iff.1 h
    cases h
    obtain ⟨ds, rfl, ⟨hne, hds⟩, rfl⟩ := exists_of_takeDigits? hdigits
    exact ⟨blanks ++ '-' :: ds, by simpa [htrimmed] using hcs, blanks, _, rfl, hblanks,
      .minus hne hds, hsign rfl⟩
  · next t htrimmed =>
    obtain ⟨⟨n, _⟩, hdigits, h⟩ := Option.map_eq_some_iff.1 h
    cases h
    obtain ⟨ds, rfl, ⟨hne, hds⟩, rfl⟩ := exists_of_takeDigits? hdigits
    exact ⟨blanks ++ '+' :: ds, by simpa [htrimmed] using hcs, blanks, _, rfl, hblanks,
      .plus hne hds, hsign rfl⟩
  · obtain ⟨⟨n, _⟩, hnumber, h⟩ := Option.map_eq_some_iff.1 h
    cases h
    obtain ⟨front, hfront, more, ds, rfl, hmore, hlen, ⟨hne, hds⟩, rfl⟩ :=
      exists_of_takeNumber? hnumber
    refine ⟨blanks ++ (more ++ ds), ?_, blanks ++ more, ds, (List.append_assoc ..).symm,
      fun c hc => (List.mem_append.1 hc).elim (hblanks c) (hmore c), .unsigned hne hds,
      fun _ => hlen⟩
    rw [List.append_assoc, ← hfront]
    exact hcs

theorem takeMark?_cons (c : Char) (rest : List Char) : takeMark? c (c :: rest) = some rest :=
  if_pos rfl

theorem takeDate?_of_spelling {cs rest : List Char} {d : Date} (h : DateSpelling cs d)
    (hrest : EndsDigits rest) : takeDate? (cs ++ rest) = some (d, rest) := by
  obtain ⟨hrange, ys, ms, ds, rfl, hyear, hmonth, hday⟩ := h
  have hmark : ∀ s, EndsDigits ('-' :: s) := endsDigits_cons rfl
  unfold takeDate?
  simp only [List.append_assoc, List.cons_append, takeYear?_of_spelling hyear (hmark _),
    takeNumber?_of_spelling hmonth (hmark _), takeNumber?_of_spelling hday hrest,
    Option.bind_eq_bind, Option.bind_some, takeMark?_cons, Date.of?_parts hrange, Option.pure_def]

theorem exists_of_takeDate? {cs rest : List Char} {d : Date}
    (h : takeDate? cs = some (d, rest)) : ∃ front, cs = front ++ rest ∧ DateSpelling front d := by
  unfold takeDate? at h
  simp only [Option.bind_eq_bind, Option.bind_eq_some_iff] at h
  obtain ⟨⟨y, _⟩, hyear, _, hmark, ⟨m, _⟩, hmonth, _, hmark', ⟨k, _⟩, hday, d', hdate, h⟩ := h
  cases h
  obtain ⟨ys, rfl, hys⟩ := exists_of_takeYear? hyear
  obtain rfl := exists_of_takeMark? hmark
  obtain ⟨ms, rfl, hms⟩ := exists_of_takeNumber? hmonth
  obtain rfl := exists_of_takeMark? hmark'
  obtain ⟨ds, rfl, hds⟩ := exists_of_takeNumber? hday
  obtain ⟨⟨rfl, rfl, rfl⟩, hrange⟩ := Date.of?_eq_some hdate
  exact ⟨ys ++ '-' :: (ms ++ '-' :: ds), by simp, hrange, ys, ms, ds, rfl, hys, hms, hds⟩

end Moment

/-! ## Times of day -/

theorem FractionSpelling.endsDigits {cs : List Char} {nanos : Nat}
    (h : FractionSpelling cs nanos) : EndsDigits cs := by
  cases h with
  | whole => exact endsDigits_nil
  | point => exact endsDigits_cons rfl _

namespace Rfc3339

theorem fraction_of_spelling {cs rest : List Char} {nanos : Nat} (h : FractionSpelling cs nanos)
    (hrest : EndsDigits rest) (hpoint : '.' ∉ rest.head?) :
    fraction (cs ++ rest) = .ok (nanos, rest) := by
  cases h with
  | whole =>
    unfold fraction
    split
    · next he => exact absurd (congrArg List.head? he) (by simpa using hpoint)
    · rfl
  | point hne hds => exact fraction_digits hne hds hrest

theorem exists_of_fraction {cs rest : List Char} {nanos : Nat}
    (h : fraction cs = .ok (nanos, rest)) :
    ∃ front, cs = front ++ rest ∧ FractionSpelling front nanos := by
  unfold fraction at h
  split at h
  · next cs =>
    split at h
    · cases h
    · next c rest' =>
      split at h
      · next hc =>
        cases h
        refine ⟨'.' :: (c :: rest').takeWhile Char.isDigit, ?_, .point ?_ ?_⟩
        · rw [List.cons_append, List.takeWhile_append_dropWhile]
        · rw [List.takeWhile_cons_of_pos hc]
          exact List.cons_ne_nil _ _
        · exact fun _ => List.mem_takeWhile_imp
      · cases h
  · cases h
    exact ⟨[], rfl, .whole⟩

end Rfc3339

namespace Moment

/-- A time of day is read up to the end of the text just if it is spelled there. -/
theorem takeClock?_eq_some_iff {cs : List Char} {c : Clock} :
    takeClock? cs = some (c, []) ↔ ClockSpelling cs c := by
  constructor
  · intro h
    unfold takeClock? at h
    simp only [Option.bind_eq_bind, Option.bind_eq_some_iff] at h
    obtain ⟨⟨hour, _⟩, hhour, _, hmark, ⟨minute, _⟩, hminute, _, hmark', ⟨second, rest⟩, hsecond,
      ⟨nanos, _⟩, hfraction, c', hclock, h⟩ := h
    cases h
    obtain ⟨hs, rfl, hhs⟩ := exists_of_takeNumber? hhour
    obtain rfl := exists_of_takeMark? hmark
    obtain ⟨is, rfl, his⟩ := exists_of_takeNumber? hminute
    obtain rfl := exists_of_takeMark? hmark'
    obtain ⟨ss, rfl, hss⟩ := exists_of_takeNumber? hsecond
    have hfraction : Rfc3339.fraction rest = .ok (nanos, []) := by
      cases hread : Rfc3339.fraction rest with
      | error fault => rw [hread] at hfraction; cases hfraction
      | ok x => rw [hread] at hfraction; cases hfraction; rfl
    obtain ⟨fs, hfs, hspelling⟩ := Rfc3339.exists_of_fraction hfraction
    rw [List.append_nil] at hfs
    subst hfs
    obtain ⟨rfl, rfl, rfl, rfl⟩ := Clock.of?_eq_some hclock
    exact ⟨hs, is, ss, rest, rfl, hhs, his, hss, hspelling⟩
  · intro h
    obtain ⟨hs, is, ss, fs, rfl, hhs, his, hss, hfs⟩ := h
    have hmark : ∀ s, EndsDigits (':' :: s) := endsDigits_cons rfl
    have hfraction := Rfc3339.fraction_of_spelling hfs endsDigits_nil nofun
    rw [List.append_nil] at hfraction
    unfold takeClock?
    simp only [takeNumber?_of_spelling hhs (hmark _), takeNumber?_of_spelling his (hmark _),
      takeNumber?_of_spelling hss hfs.endsDigits, hfraction, takeMark?_cons, Rfc3339.clock_of?,
      Except.toOption, Option.bind_eq_bind, Option.bind_some, Option.pure_def]

/-! ## Values without an offset -/

theorem readDay?_eq_some_iff {text : String} {d : Date} :
    readDay? text = some d ↔ DateSpelling text.toList d := by
  constructor
  · intro h
    obtain ⟨front, hfront, hspelling⟩ := exists_of_takeDate? (whole?_eq_some h)
    rw [List.append_nil] at hfront
    rwa [hfront]
  · intro h
    have htake := takeDate?_of_spelling h endsDigits_nil
    rw [List.append_nil] at htake
    unfold readDay?
    rw [htake]
    rfl

theorem readUnzoned?_eq_some_iff {text : String} {t : Timestamp} :
    readUnzoned? text = some t ↔
      ∃ ds cs d c, text.toList = ds ++ 'T' :: cs ∧ DateSpelling ds d ∧ ClockSpelling cs c ∧
        t = .ofLocal d c 0 := by
  constructor
  · intro h
    have h := whole?_eq_some h
    simp only [Option.bind_eq_bind, Option.bind_eq_some_iff] at h
    obtain ⟨⟨d, _⟩, hdate, cs, hmark, ⟨c, _⟩, hclock, h⟩ := h
    cases h
    obtain ⟨ds, hds, hspelling⟩ := exists_of_takeDate? hdate
    obtain rfl := exists_of_takeMark? hmark
    exact ⟨ds, cs, d, c, hds, hspelling, takeClock?_eq_some_iff.1 hclock, rfl⟩
  · intro h
    obtain ⟨ds, cs, d, c, htext, hdate, hclock, rfl⟩ := h
    have hmark : EndsDigits ('T' :: cs) := endsDigits_cons rfl cs
    unfold readUnzoned?
    rw [htext]
    simp only [takeDate?_of_spelling hdate hmark, Option.bind_eq_bind,
      Option.bind_some, takeMark?_cons, takeClock?_eq_some_iff.2 hclock, Option.pure_def]
    rfl

theorem eq_padded_of_natural? {ds : List Char} {n : Nat} (h : Numeral.natural? ds = some n) :
    n < 10 ^ ds.length ∧ ds = padded ds.length n := by
  obtain ⟨⟨hne, hds⟩, rfl⟩ := Numeral.natural?_eq_some_iff.1 h
  exact ⟨Numeral.ofDigitChars_lt hds, Numeral.eq_padded hne hds⟩

theorem spelling_of_readPeriod? {text : String} {m : Moment} (h : readPeriod? text = some m) :
    Spelling text.toList m := by
  unfold readPeriod? at h
  split at h
  · next a b c d htext =>
    obtain ⟨year, hyear, rfl⟩ := Option.map_eq_some_iff.1 h
    obtain ⟨hlt, hds⟩ := eq_padded_of_natural? hyear
    rw [htext, hds]
    exact .year hlt
  · next a b c d e f htext =>
    simp only [Option.bind_eq_bind, Option.bind_eq_some_iff] at h
    obtain ⟨year, hyear, month, hmonth, h⟩ := h
    split at h
    · next hrange =>
      cases h
      obtain ⟨hlt, hds⟩ := eq_padded_of_natural? hyear
      have htext' : text.toList = [a, b, c, d] ++ '-' :: [e, f] := htext
      rw [htext', hds, (eq_padded_of_natural? hmonth).2]
      exact .month hlt hrange
    · cases h
  · cases h

end Moment

/-! ## Timestamps with an offset -/

/-- An offset continues no fraction. -/
theorem OffsetSpelling.head {cs : List Char} {minutes : Int} (h : OffsetSpelling cs minutes) :
    EndsDigits cs ∧ '.' ∉ cs.head? := by
  have hhead : ∀ {c : Char} (rest : List Char), c.isDigit = false ∧ c ≠ '.' →
      EndsDigits (c :: rest) ∧ '.' ∉ (c :: rest).head? := by
    intro c rest hc
    exact ⟨endsDigits_cons hc.1 rest, by simpa using hc.2⟩
  cases h with
  | utc hc => rcases hc with rfl | rfl <;> exact hhead _ (by decide)
  | ahead => exact hhead _ (by decide)
  | behind hsign => rcases hsign with rfl | rfl <;> exact hhead _ (by decide)

theorem OffsetSpelling.natAbs_lt {cs : List Char} {minutes : Int} (h : OffsetSpelling cs minutes) :
    minutes.natAbs < 1440 := by
  cases h <;> omega

namespace Rfc3339

theorem offset_of_spelling {cs : List Char} {minutes : Int} (h : OffsetSpelling cs minutes) :
    offset cs = .ok (minutes, []) := by
  cases h with
  | utc hc => exact if_pos hc
  | ahead hhours hminutes =>
    rw [offset, if_neg (by decide), if_pos rfl, offsetSize_padded (by omega) hminutes]
    rfl
  | @behind sign _ _ hsign hhours hminutes =>
    have hne : ¬ (sign = 'Z' ∨ sign = 'z') ∧ sign ≠ '+' := by
      rcases hsign with rfl | rfl <;> decide
    rw [offset, if_neg hne.1, if_neg hne.2, if_pos hsign, offsetSize_padded (by omega) hminutes]
    rfl

theorem exists_of_offsetSize {cs : List Char} {n : Nat} (h : offsetSize cs = .ok (n, [])) :
    ∃ hours minutes, minutes < 60 ∧ cs = padded 2 hours ++ ':' :: padded 2 minutes ∧
      n = hours * 60 + minutes := by
  unfold offsetSize at h
  dsimp only at h
  split at h
  · cases h
  obtain ⟨⟨hours, _⟩, hhours, h⟩ := exists_of_bind h
  obtain ⟨_, hmark, h⟩ := exists_of_bind h
  split at h
  · cases h
  obtain ⟨⟨minutes, _⟩, hminutes, h⟩ := exists_of_bind h
  split at h
  · next hlt =>
    cases h
    obtain ⟨hs, rfl, hhs, rfl⟩ := exists_of_digits hhours
    obtain rfl := eq_cons_of_one hmark
    obtain ⟨ms, rfl, hms, rfl⟩ := exists_of_digits hminutes
    refine ⟨_, _, hlt, ?_, rfl⟩
    rw [← hhs.eq_padded, ← hms.eq_padded, List.append_nil]
  · cases h

theorem spelling_of_offset {cs : List Char} {minutes : Int} (h : offset cs = .ok (minutes, []))
    (hrange : minutes.natAbs < 1440) : OffsetSpelling cs minutes := by
  cases cs with
  | nil => cases h
  | cons c cs =>
    rw [offset] at h
    split at h
    · next hc => cases h; exact .utc hc
    split at h
    · next hc =>
      obtain ⟨⟨n, _⟩, hsize, hn⟩ := exists_of_map h
      cases hn
      obtain ⟨hours, mins, hlt, rfl, rfl⟩ := exists_of_offsetSize hsize
      rw [hc]
      exact .ahead (by omega) hlt
    split at h
    · next hc =>
      obtain ⟨⟨n, _⟩, hsize, hn⟩ := exists_of_map h
      cases hn
      obtain ⟨hours, mins, hlt, rfl, rfl⟩ := exists_of_offsetSize hsize
      exact .behind hc (by omega) hlt
    · cases h

/-- Timestamps with an offset are read from the texts that spell them. -/
theorem read_eq_ok_iff {text : String} {t : Timestamp} :
    read text = .ok t ↔
      ∃ d mark c fs os minutes, FourDigits d.year ∧ (mark = 'T' ∨ mark = 't' ∨ mark = ' ') ∧
        FractionSpelling fs c.nanos ∧ OffsetSpelling os minutes ∧
        text.toList = localText d mark c (fs ++ os) ∧ t = .ofLocal d c minutes := by
  constructor
  · intro h
    obtain ⟨ys, ms, ds, mark, hs, is, ss, cs, nanos, x, rest, d, c, minutes, htext,
      ⟨hys, hms, hds⟩, ⟨hhs, his, hss⟩, hmark, hdate, hfraction, hclock, hoffset, hrange, rfl⟩ :=
      exists_parts_of_read h
    obtain ⟨⟨hyear, hmonth, hday⟩, -⟩ := Date.of?_eq_some hdate
    obtain ⟨hhour, hminute, hsecond, rfl⟩ := Clock.of?_eq_some hclock
    obtain ⟨fs, rfl, hfs⟩ := exists_of_fraction hfraction
    have hlt := Numeral.ofDigitChars_lt hys.2
    rw [hys.1] at hlt
    refine ⟨d, mark, c, fs, x :: rest, minutes, ?_, hmark, hfs, spelling_of_offset hoffset hrange,
      ?_, rfl⟩
    · rw [hyear]
      exact ⟨by omega, by omega⟩
    · rw [htext, localText, hyear, hmonth, hday, hhour, hminute, hsecond, Int.toNat_natCast,
        ← hys.eq_padded, ← hms.eq_padded, ← hds.eq_padded, ← hhs.eq_padded, ← his.eq_padded,
        ← hss.eq_padded]
  · intro h
    obtain ⟨d, mark, c, fs, os, minutes, hyear, hmark, hfraction, hoffset, htext, rfl⟩ := h
    rw [← text.ofList_toList, htext]
    exact read_localText hyear hmark (fraction_of_spelling hfraction hoffset.head.1 hoffset.head.2)
      (offset_of_spelling hoffset) hoffset.natAbs_lt

end Rfc3339

/-! ## Values -/

namespace Moment

/-- **Spellings.** A text is read as a value if and only if it is one of its spellings. -/
theorem read?_eq_some_iff_spelling {text : String} {m : Moment} :
    read? text = some m ↔ Spelling text.toList m := by
  constructor
  · intro h
    obtain ⟨t, hzoned, rfl⟩ | ⟨t, hunzoned, rfl⟩ | ⟨d, hday, rfl⟩ | hperiod := read?_cases h
    · obtain ⟨d, mark, c, fs, os, minutes, hyear, hmark, hfraction, hoffset, htext, rfl⟩ :=
        Rfc3339.read_eq_ok_iff.1 (read_of_readZoned? hzoned)
      rw [htext]
      exact .zoned hyear hmark hfraction hoffset
    · obtain ⟨ds, cs, d, c, htext, hdate, hclock, rfl⟩ := readUnzoned?_eq_some_iff.1 hunzoned
      rw [htext]
      exact .unzoned hdate hclock
    · exact .day (readDay?_eq_some_iff.1 hday)
    · exact spelling_of_readPeriod? hperiod
  · intro h
    obtain ⟨cs, rfl⟩ : ∃ cs, text = String.ofList cs := ⟨_, text.ofList_toList.symm⟩
    rw [String.toList_ofList] at h
    cases h with
    | @zoned d mark c fs os minutes hyear hmark hfraction hoffset =>
      have hread := Rfc3339.read_eq_ok_iff.2 ⟨d, mark, c, fs, os, minutes, hyear, hmark,
        hfraction, hoffset, String.toList_ofList, rfl⟩
      unfold read? readZoned?
      rw [hread]
      rfl
    | @unzoned ds cs d c hdate hclock =>
      refine read?_eq_some_iff.2 ⟨.unzoned, ?_⟩
      rw [Form.read?, readUnzoned?_eq_some_iff.2 ⟨ds, cs, d, c, String.toList_ofList, hdate,
        hclock, rfl⟩, Option.map_some]
    | day hdate =>
      refine read?_eq_some_iff.2 ⟨.day, ?_⟩
      rw [Form.read?, readDay?_eq_some_iff.2 (by rwa [String.toList_ofList]), Option.map_some]
    | month hyear hmonth => exact read?_month hyear hmonth.1 hmonth.2
    | year hyear => exact read?_year hyear

/-- No text names two values. -/
theorem Spelling.unique {cs : List Char} {m m' : Moment} (h : Spelling cs m)
    (h' : Spelling cs m') : m = m' := by
  rw [← String.toList_ofList (l := cs)] at h h'
  exact Option.some.inj
    ((read?_eq_some_iff_spelling.2 h).symm.trans (read?_eq_some_iff_spelling.2 h'))

end Moment

end BucketDigest.Time
