import BucketDigest.Proofs.Numeral
import BucketDigest.Time.Format
import BucketDigest.Time.Rfc3339

/-!
# Timestamps that are read back

A timestamp of a year with four digits is written as RFC 3339 has it, with the instant cut off at
whole milliseconds.

* `read_localText`: a date, a time of day and an offset give the instant at which clocks that are so
  far ahead of UTC show them.
* `read_text`: reading it gives just that instant.
-/
namespace BucketDigest.Time

open Numeral (padded EndsDigits endsDigits_cons)

/-- Whether a year is written with four digits and no sign. -/
def FourDigits (year : Int) : Prop := 0 ≤ year ∧ year ≤ 9999

/-- A year that can be written. -/
def InRange (year : Int) : Prop := firstYear ≤ year ∧ year ≤ lastYear

theorem FourDigits.inRange {year : Int} (h : FourDigits year) : InRange year := by
  obtain ⟨hlow, hhigh⟩ := h
  unfold InRange firstYear lastYear
  omega

/-- The last whole millisecond up to a point in time. A leap second stays one. -/
def Timestamp.truncated (t : Timestamp) : Timestamp where
  seconds := t.seconds
  nanos := t.nanos / 1000000 * 1000000
  nanos_lt := Nat.lt_of_le_of_lt (Nat.div_mul_le_self ..) t.nanos_lt
  last_of_minute h := t.last_of_minute (Nat.le_trans h (Nat.div_mul_le_self ..))

theorem yearText_of_fourDigits {year : Int} (h : FourDigits year) :
    yearText year = padded 4 year.toNat := if_pos h

/-- The sign in front of a year without four digits. -/
def yearSign (year : Int) : Char := if year < 0 then '-' else '+'

theorem isDigit_yearSign (year : Int) : (yearSign year).isDigit = false := by
  unfold yearSign
  split <;> rfl

theorem yearText_of_not_fourDigits {year : Int} (h : ¬FourDigits year) :
    yearText year = yearSign year :: padded 4 year.natAbs := if_neg h

theorem FourDigits.toNat_lt {year : Int} (h : FourDigits year) : year.toNat < 10 ^ 4 := by
  have := h.2
  omega

theorem monthLength_le (year : Int) (month : Nat) : monthLength year month ≤ 31 := by
  unfold monthLength
  generalize isLeap year = leap
  generalize month - 1 = i
  match i with
  | 0 | 1 | 2 | 3 | 4 | 5 | 6 | 7 | 8 | 9 | 10 | 11 => cases leap <;> decide
  | _ + 12 => cases leap <;> exact Nat.zero_le _

theorem Date.day_lt (d : Date) : d.day < 10 ^ 2 := by
  have := Nat.le_trans d.day_le (monthLength_le d.year d.month)
  omega

theorem Date.month_lt (d : Date) : d.month < 10 ^ 2 := by
  have := d.month_le
  omega

/-- A date is the date of its parts. -/
theorem Date.of?_parts {d : Date} (h : InRange d.year) :
    Date.of? d.year d.month d.day = some d := by
  have hrange : firstYear ≤ d.year ∧ d.year ≤ lastYear := h
  unfold of?
  rw [dif_pos ⟨⟨d.month_pos, d.month_le⟩, d.day_pos, d.day_le⟩, if_pos hrange]

/-! ## The clock of a timestamp -/

namespace Timestamp

theorem secondOfDay_lt (t : Timestamp) : t.secondOfDay < 86400 := by
  unfold secondOfDay
  omega

theorem hour_lt (t : Timestamp) : t.hour < 24 := by
  have := t.secondOfDay_lt
  unfold hour
  omega

theorem minute_lt (t : Timestamp) : t.minute < 60 := Nat.mod_lt _ (by decide)

theorem second_le (t : Timestamp) : t.second ≤ 60 := by
  unfold second
  split <;> omega

theorem hour_lt_pow (t : Timestamp) : t.hour < 10 ^ 2 := Nat.lt_trans t.hour_lt (by decide)

theorem minute_lt_pow (t : Timestamp) : t.minute < 10 ^ 2 := Nat.lt_trans t.minute_lt (by decide)

theorem second_lt_pow (t : Timestamp) : t.second < 10 ^ 2 :=
  Nat.lt_of_le_of_lt t.second_le (by decide)

theorem milli_lt (t : Timestamp) : t.milli < 1000 := by
  have := Nat.mod_lt t.nanos (show 0 < nanosPerSecond by decide)
  unfold milli
  unfold nanosPerSecond at *
  omega

theorem isLeapSecond_iff (t : Timestamp) : t.isLeapSecond = true ↔ nanosPerSecond ≤ t.nanos :=
  decide_eq_true_iff

/-- The time of day as it is written. -/
def clock (t : Timestamp) : Clock where
  hour := t.hour
  minute := t.minute
  second := t.second
  nanos := t.milli * 1000000
  hour_lt := t.hour_lt
  minute_lt := t.minute_lt
  second_le := t.second_le
  nanos_lt := by
    have := t.milli_lt
    unfold nanosPerSecond
    omega

theorem second_eq (t : Timestamp) :
    t.second = t.secondOfDay % 60 ∧ t.nanos < nanosPerSecond ∨
      t.second = 60 ∧ t.secondOfDay % 60 = 59 ∧ nanosPerSecond ≤ t.nanos := by
  unfold second
  cases hleap : t.isLeapSecond with
  | false =>
    have hlt : ¬ nanosPerSecond ≤ t.nanos := fun h => by
      rw [(t.isLeapSecond_iff).2 h] at hleap
      cases hleap
    exact .inl ⟨rfl, Nat.lt_of_not_le hlt⟩
  | true =>
    have hle := (t.isLeapSecond_iff).1 hleap
    have hlast := t.last_of_minute hle
    have h59 : t.secondOfDay % 60 = 59 := by
      unfold secondOfDay
      omega
    exact .inr ⟨by rw [h59]; rfl, h59, hle⟩

/-- The date and the clock of a timestamp name its last whole millisecond. -/
theorem ofLocal_date_clock (t : Timestamp) : ofLocal t.date t.clock 0 = t.truncated := by
  have hday : t.date.dayNumber = t.seconds / 86400 := dayNumber_ofDayNumber _
  have hof : (t.secondOfDay : Int) = t.seconds % 86400 := by unfold secondOfDay; omega
  have hhour : t.hour = t.secondOfDay / 3600 := rfl
  have hminute : t.minute = t.secondOfDay / 60 % 60 := rfl
  have hmilli : t.milli = t.nanos % 1000000000 / 1000000 := rfl
  have hnanos := t.nanos_lt
  simp only [nanosPerSecond] at hnanos
  rcases t.second_eq with ⟨hsecond, hlt⟩ | ⟨hsecond, h59, hle⟩
  · simp only [nanosPerSecond] at hlt
    ext
    · simp only [ofLocal, clock, truncated, hday, hsecond]
      omega
    · show t.milli * 1000000 + (if t.second = 60 then nanosPerSecond else 0) = _
      rw [if_neg (by omega)]
      simp only [truncated]
      omega
  · simp only [nanosPerSecond] at hle
    ext
    · simp only [ofLocal, clock, truncated, hday, hsecond]
      omega
    · show t.milli * 1000000 + (if t.second = 60 then nanosPerSecond else 0) = _
      rw [if_pos hsecond]
      simp only [truncated, nanosPerSecond]
      omega

theorem isLeapSecond_truncated (t : Timestamp) : t.truncated.isLeapSecond = t.isLeapSecond := by
  refine decide_eq_decide.2 ?_
  simp only [truncated, nanosPerSecond]
  omega

/-- Cutting off what is below a millisecond does not show in the text. -/
theorem text_truncated (t : Timestamp) : t.truncated.text = t.text := by
  have hmilli : t.truncated.milli = t.milli := by
    simp only [milli, truncated, nanosPerSecond]
    omega
  have hsecond : t.truncated.second = t.second := by
    unfold second
    rw [isLeapSecond_truncated]
    rfl
  unfold text
  rw [hmilli, hsecond]
  rfl

/-- What is written behind the date. -/
def clockText (t : Timestamp) : List Char :=
  'T' :: (padded 2 t.hour ++ ':' :: (padded 2 t.minute ++ ':' ::
    (padded 2 t.second ++ '.' :: (padded 3 t.milli ++ ['Z']))))

theorem text_eq_append (t : Timestamp) : t.text = t.date.text ++ t.clockText := by
  unfold text clockText
  simp only [List.append_assoc, List.cons_append]

end Timestamp

/-! ## Reading -/

namespace Rfc3339

theorem ok_bind {α β : Type} (a : α) (f : α → Except Fault β) : (Except.ok a >>= f) = f a := rfl

theorem length_le_octetCount (cs : List Char) : cs.length ≤ octetCount cs := by
  induction cs with
  | nil => exact Nat.le_refl 0
  | cons c cs ih =>
    have := c.utf8Size_pos
    show cs.length + 1 ≤ c.utf8Size + octetCount cs
    omega

theorem digits_append {ds : List Char} (hds : ∀ c ∈ ds, c.isDigit = true) (value : Nat)
    (rest : List Char) :
    digits ds.length value (ds ++ rest) = .ok (Nat.ofDigitChars 10 ds value, rest) := by
  induction ds generalizing value with
  | nil => rfl
  | cons c ds ih =>
    obtain ⟨hc, hrest⟩ := List.forall_mem_cons.1 hds
    rw [List.length_cons, List.cons_append, digits, if_pos hc, ih hrest, Nat.ofDigitChars_cons,
      Nat.mul_comm]

theorem digits_padded {width n : Nat} (hwidth : 0 < width) (h : n < 10 ^ width)
    (rest : List Char) : digits width 0 (padded width n ++ rest) = .ok (n, rest) := by
  have hds : ∀ c ∈ padded width n, c.isDigit = true := fun c hc => Numeral.isDigit_of_mem_padded hc
  have hread := digits_append hds 0 rest
  rwa [Numeral.length_padded hwidth h, Numeral.ofDigitChars_padded] at hread

theorem one_cons {accept : Char → Bool} {c : Char} (h : accept c = true) (rest : List Char) :
    one accept (c :: rest) = .ok rest := if_pos h

/-- Three digits behind the point are milliseconds. -/
theorem nanosOf_padded {n : Nat} (h : n < 1000) : nanosOf (padded 3 n) = n * 1000000 := by
  have hlen : (padded 3 n).length = 3 := Numeral.length_padded (by decide) h
  unfold nanosOf
  rw [List.take_append, hlen, List.take_of_length_le (by rw [hlen]; decide),
    Nat.ofDigitChars_append, Numeral.ofDigitChars_padded]
  show Nat.ofDigitChars 10 ['0', '0', '0', '0', '0', '0'] n = _
  simp [Nat.ofDigitChars_cons]
  omega

theorem fraction_digits {ds rest : List Char} (hne : ds ≠ []) (hds : ∀ d ∈ ds, d.isDigit = true)
    (hrest : EndsDigits rest) : fraction ('.' :: (ds ++ rest)) = .ok (nanosOf ds, rest) := by
  have htake := hrest.takeWhile_append hds
  have hdrop := hrest.dropWhile_append hds
  obtain ⟨d, ds, rfl⟩ := List.exists_cons_of_ne_nil hne
  have hd := hds d (List.mem_cons_self ..)
  simp only [List.cons_append] at htake hdrop ⊢
  simp only [fraction, hd, if_true, htake, hdrop]

theorem fraction_padded {n : Nat} (h : n < 1000) {c : Char} (hc : c.isDigit = false)
    (rest : List Char) :
    fraction ('.' :: (padded 3 n ++ c :: rest)) = .ok (n * 1000000, c :: rest) := by
  rw [fraction_digits (Numeral.padded_ne_nil 3 n) (fun d hd => Numeral.isDigit_of_mem_padded hd)
    (endsDigits_cons hc rest), nanosOf_padded h]

theorem clock_of? (c : Clock) : Clock.of? c.hour c.minute c.second c.nanos = some c := by
  unfold Clock.of?
  rw [dif_pos ⟨⟨c.hour_lt, c.minute_lt⟩, c.second_le, c.nanos_lt⟩]

/-- A date of a year with four digits, a time of day up to the second, and then more. -/
def localText (d : Date) (mark : Char) (c : Clock) (rest : List Char) : List Char :=
  padded 4 d.year.toNat ++ '-' :: (padded 2 d.month ++ '-' :: (padded 2 d.day ++
    mark :: (padded 2 c.hour ++ ':' :: (padded 2 c.minute ++ ':' ::
      (padded 2 c.second ++ rest)))))

/-- In a year of four digits a date and a time of day are read as they were written, if a fraction
and an offset follow. -/
theorem read_localText {d : Date} (h : FourDigits d.year) {mark : Char}
    (hmark : mark = 'T' ∨ mark = 't' ∨ mark = ' ') {c : Clock} {cs rest : List Char}
    {minutes : Int} (hfraction : fraction cs = .ok (c.nanos, rest))
    (hoffset : offset rest = .ok (minutes, [])) (hminutes : minutes.natAbs < 1440) :
    read (String.ofList (localText d mark c cs)) = .ok (.ofLocal d c minutes) := by
  have hyear : ((d.year.toNat : Nat) : Int) = d.year := Int.toNat_of_nonneg h.1
  have h2 : ∀ {n : Nat}, n < 100 → ∀ rest, digits 2 0 (padded 2 n ++ rest) = .ok (n, rest) :=
    fun hn rest => digits_padded (by decide) hn rest
  have hhour : c.hour < 100 := Nat.lt_trans c.hour_lt (by decide)
  have hminute : c.minute < 100 := Nat.lt_trans c.minute_lt (by decide)
  have hsecond : c.second < 100 := Nat.lt_of_le_of_lt c.second_le (by decide)
  have haccepted : (mark = 'T' || mark = 't' || mark = ' ') = true := by
    simpa [or_assoc] using hmark
  have hlen : 19 ≤ octetCount (localText d mark c cs) := by
    have hwidth : ∀ {n : Nat}, n < 100 → (padded 2 n).length = 2 :=
      fun hn => Numeral.length_padded (by decide) hn
    refine Nat.le_trans ?_ (length_le_octetCount _)
    simp only [localText, List.length_append, List.length_cons, hwidth d.month_lt,
      hwidth d.day_lt, hwidth hhour, hwidth hminute, hwidth hsecond,
      Numeral.length_padded (show 0 < 4 by decide) h.toNat_lt]
    omega
  unfold read
  simp only [String.toList_ofList]
  rw [if_neg (Nat.not_lt.2 hlen), localText, digits_padded (by decide) h.toNat_lt, ok_bind,
    one_cons rfl, ok_bind, h2 d.month_lt, ok_bind, one_cons rfl, ok_bind, h2 d.day_lt, ok_bind,
    hyear, Date.of?_parts h.inRange, inRange, ok_bind, one_cons haccepted, ok_bind, h2 hhour,
    ok_bind, one_cons rfl, ok_bind, h2 hminute, ok_bind, one_cons rfl, ok_bind, h2 hsecond, ok_bind,
    hfraction, ok_bind, clock_of?, inRange, ok_bind, hoffset, ok_bind]
  exact if_pos hminutes

/-- **Timestamps.** A timestamp of a year with four digits is read as it was written, that is, cut
off at whole milliseconds. -/
theorem read_text {t : Timestamp} (h : FourDigits t.date.year) :
    read (String.ofList t.text) = .ok t.truncated := by
  have htext : t.text = localText t.date 'T' t.clock ('.' :: (padded 3 t.milli ++ ['Z'])) := by
    unfold Timestamp.text Date.text localText
    rw [yearText_of_fourDigits h]
    simp only [List.append_assoc, List.cons_append]
    rfl
  rw [htext, ← t.ofLocal_date_clock]
  exact read_localText h (.inl rfl) (fraction_padded t.milli_lt rfl []) rfl (by decide)

/-! ## Offsets -/

theorem offsetSize_padded {hours minutes : Nat} (hhours : hours < 100) (hminutes : minutes < 60) :
    offsetSize (padded 2 hours ++ ':' :: padded 2 minutes) = .ok (hours * 60 + minutes, []) := by
  have hminutes' : minutes < 100 := Nat.lt_trans hminutes (by decide)
  have hlen : ∀ {n : Nat}, n < 100 → ∀ rest, ¬ octetCount (padded 2 n ++ rest) < 2 := by
    intro n hn rest
    have hwidth : (padded 2 n).length = 2 := Numeral.length_padded (by decide) hn
    have hle := length_le_octetCount (padded 2 n ++ rest)
    rw [List.length_append, hwidth] at hle
    omega
  have hlast := digits_padded (show 0 < 2 by decide) hminutes' []
  have hlen' := hlen hminutes' []
  rw [List.append_nil] at hlast hlen'
  unfold offsetSize
  simp only
  rw [if_neg (hlen hhours _), digits_padded (by decide) hhours, ok_bind, one_cons rfl, ok_bind,
    if_neg hlen', hlast, ok_bind]
  exact if_pos hminutes

end Rfc3339

end BucketDigest.Time
