import BucketDigest.Proofs.Numeral.Order
import BucketDigest.Proofs.Time.Moment

/-!
# Years of timestamps that have been read

The year of a timestamp is read from four digits, but an offset from UTC may move it out of them by
one, at either end. Such a timestamp is written with a sign before its year, which is not read.

* `exists_parts_of_read`: what a timestamp is read from.
* `year_of_read`: the years that a timestamp can have.
* `read_text_of_not_fourDigits`: what is written of the others is refused.
-/
namespace BucketDigest.Time

open Numeral (padded)

/-! ## Days and years -/

theorem daysBeforeYear_mono {y y' : Int} (h : y ≤ y') : daysBeforeYear y ≤ daysBeforeYear y' := by
  unfold daysBeforeYear
  omega

theorem daysBefore_le (leap : Bool) {i : Nat} (h : i < 12) :
    daysBefore (monthLengths leap) i ≤ 335 := by
  match i, h with
  | 0, _ | 1, _ | 2, _ | 3, _ | 4, _ | 5, _ | 6, _ | 7, _ | 8, _ | 9, _ | 10, _ | 11, _ =>
    cases leap <;> decide

/-- A day at most one away from the years 0 to 9999 falls in a year at most one away. -/
theorem year_ofDayNumber {d : Date} (h : FourDigits d.year) {n : Int} (hlow : d.dayNumber - 1 ≤ n)
    (hhigh : n ≤ d.dayNumber + 1) :
    -1 ≤ (Date.ofDayNumber n).year ∧ (Date.ofDayNumber n).year ≤ 10000 := by
  have hspec := yearOf_spec (n + epochDay)
  have hyear : (Date.ofDayNumber n).year = yearOf (n + epochDay) := rfl
  have hmonth := daysBefore_le (isLeap d.year) (show d.month - 1 < 12 by have := d.month_le; omega)
  have hday := d.day_lt
  have hstart := daysBeforeYear_mono h.1
  have hend := daysBeforeYear_mono h.2
  have hfirst : daysBeforeYear (-1) = -365 := by decide
  have hzero : daysBeforeYear 0 = 0 := by decide
  have hlast : daysBeforeYear 10001 = daysBeforeYear 9999 + 731 := by decide
  unfold Date.dayNumber at hlow hhigh
  rw [hyear]
  constructor
  · refine Int.not_lt.1 fun hlt => ?_
    have := daysBeforeYear_mono (show yearOf (n + epochDay) + 1 ≤ -1 by omega)
    omega
  · refine Int.not_lt.1 fun hlt => ?_
    have := daysBeforeYear_mono (show 10001 ≤ yearOf (n + epochDay) by omega)
    omega

/-- What is put together is what the parts say. -/
theorem Date.of?_eq_some {year : Int} {month day : Nat} {d : Date}
    (h : Date.of? year month day = some d) :
    (d.year = year ∧ d.month = month ∧ d.day = day) ∧ InRange d.year := by
  unfold Date.of? at h
  split at h
  · split at h
    · next hrange => cases h; exact ⟨⟨rfl, rfl, rfl⟩, hrange⟩
    · cases h
  · cases h

theorem Clock.of?_eq_some {hour minute second nanos : Nat} {c : Clock}
    (h : Clock.of? hour minute second nanos = some c) :
    c.hour = hour ∧ c.minute = minute ∧ c.second = second ∧ c.nanos = nanos := by
  unfold Clock.of? at h
  split at h
  · cases h; exact ⟨rfl, rfl, rfl, rfl⟩
  · cases h

/-- So many digits and nothing else. -/
def IsDigits (n : Nat) (ds : List Char) : Prop := ds.length = n ∧ ∀ c ∈ ds, c.isDigit = true

theorem IsDigits.ne_nil {n : Nat} {ds : List Char} (h : IsDigits (n + 1) ds) : ds ≠ [] := by
  rintro rfl
  cases h.1

/-! ## What a timestamp is read from -/

namespace Rfc3339

theorem exists_of_bind {α β : Type} {x : Except Fault α} {f : α → Except Fault β} {b : β}
    (h : (x >>= f) = .ok b) : ∃ a, x = .ok a ∧ f a = .ok b := by
  cases x with
  | error fault => cases h
  | ok a => exact ⟨a, rfl, h⟩

theorem exists_of_map {α β : Type} {x : Except Fault α} {f : α → β} {b : β}
    (h : x.map f = .ok b) : ∃ a, x = .ok a ∧ f a = b := by
  cases x with
  | error fault => cases h
  | ok a => exact ⟨a, rfl, Except.ok.inj h⟩

theorem exists_of_digits {n value m : Nat} {cs rest : List Char}
    (h : digits n value cs = .ok (m, rest)) :
    ∃ ds, cs = ds ++ rest ∧ IsDigits n ds ∧ m = Nat.ofDigitChars 10 ds value := by
  induction n generalizing value cs with
  | zero =>
    cases h
    exact ⟨[], rfl, ⟨rfl, nofun⟩, rfl⟩
  | succ n ih =>
    cases cs with
    | nil => cases h
    | cons c cs =>
      rw [digits] at h
      split at h
      · next hc =>
        obtain ⟨ds, rfl, ⟨hlen, hds⟩, rfl⟩ := ih h
        refine ⟨c :: ds, rfl, ⟨congrArg Nat.succ hlen, List.forall_mem_cons.2 ⟨hc, hds⟩⟩, ?_⟩
        rw [Nat.ofDigitChars_cons, Nat.mul_comm]
      · cases h

theorem exists_of_one {accept : Char → Bool} {cs rest : List Char}
    (h : one accept cs = .ok rest) : ∃ c, accept c = true ∧ cs = c :: rest := by
  cases cs with
  | nil => cases h
  | cons c cs =>
    rw [one] at h
    split at h
    · next hc => cases h; exact ⟨c, hc, rfl⟩
    · cases h

theorem eq_cons_of_one {c : Char} {cs rest : List Char} (h : one (· = c) cs = .ok rest) :
    cs = c :: rest := by
  obtain ⟨d, hd, rfl⟩ := exists_of_one h
  rw [of_decide_eq_true hd]

theorem eq_some_of_inRange {α : Type} {x : Option α} {a : α} (h : inRange x = .ok a) :
    x = some a := by
  cases x with
  | none => cases h
  | some b => cases h; rfl

/-- The parts of a timestamp: the digits of its date and of its time of day, a fraction if there is
one, and an offset of less than a day, which takes up at least one character. -/
theorem exists_parts_of_read {text : String} {t : Timestamp} (h : read text = .ok t) :
    ∃ ys ms ds mark hs is ss cs nanos x rest date clock minutes,
      text.toList = ys ++ '-' :: (ms ++ '-' :: (ds ++ mark ::
        (hs ++ ':' :: (is ++ ':' :: (ss ++ cs))))) ∧
      (IsDigits 4 ys ∧ IsDigits 2 ms ∧ IsDigits 2 ds) ∧
      (IsDigits 2 hs ∧ IsDigits 2 is ∧ IsDigits 2 ss) ∧
      (mark = 'T' ∨ mark = 't' ∨ mark = ' ') ∧
      Date.of? (Nat.ofDigitChars 10 ys 0 : Nat) (Nat.ofDigitChars 10 ms 0)
        (Nat.ofDigitChars 10 ds 0) = some date ∧
      fraction cs = .ok (nanos, x :: rest) ∧
      Clock.of? (Nat.ofDigitChars 10 hs 0) (Nat.ofDigitChars 10 is 0) (Nat.ofDigitChars 10 ss 0)
        nanos = some clock ∧
      offset (x :: rest) = .ok (minutes, []) ∧
      minutes.natAbs < 1440 ∧ t = .ofLocal date clock minutes := by
  unfold read at h
  dsimp only at h
  split at h
  · cases h
  obtain ⟨⟨year, _⟩, hyear, h⟩ := exists_of_bind h
  obtain ⟨_, hmark₁, h⟩ := exists_of_bind h
  obtain ⟨⟨month, _⟩, hmonth, h⟩ := exists_of_bind h
  obtain ⟨_, hmark₂, h⟩ := exists_of_bind h
  obtain ⟨⟨day, _⟩, hday, h⟩ := exists_of_bind h
  obtain ⟨date, hdate, h⟩ := exists_of_bind h
  obtain ⟨_, hmark₃, h⟩ := exists_of_bind h
  obtain ⟨⟨hour, _⟩, hhour, h⟩ := exists_of_bind h
  obtain ⟨_, hmark₄, h⟩ := exists_of_bind h
  obtain ⟨⟨minute, _⟩, hminute, h⟩ := exists_of_bind h
  obtain ⟨_, hmark₅, h⟩ := exists_of_bind h
  obtain ⟨⟨second, cs⟩, hsecond, h⟩ := exists_of_bind h
  obtain ⟨⟨nanos, rest⟩, hfraction, h⟩ := exists_of_bind h
  obtain ⟨clock, hclock, h⟩ := exists_of_bind h
  obtain ⟨⟨minutes, left⟩, hoffset, h⟩ := exists_of_bind h
  obtain ⟨rfl, hminutes, rfl⟩ :
      left = [] ∧ minutes.natAbs < 1440 ∧ t = .ofLocal date clock minutes := by
    split at h
    · cases h
    · next hleft =>
      split at h
      · next hminutes => cases h; exact ⟨Decidable.not_not.1 hleft, hminutes, rfl⟩
      · cases h
  obtain ⟨x, rest, rfl⟩ : ∃ x rest', rest = x :: rest' := by
    cases rest with
    | nil => cases hoffset
    | cons x rest => exact ⟨x, rest, rfl⟩
  obtain ⟨ys, htext, hys, rfl⟩ := exists_of_digits hyear
  obtain rfl := eq_cons_of_one hmark₁
  obtain ⟨ms, rfl, hms, rfl⟩ := exists_of_digits hmonth
  obtain rfl := eq_cons_of_one hmark₂
  obtain ⟨ds, rfl, hds, rfl⟩ := exists_of_digits hday
  obtain ⟨mark, hmark, rfl⟩ := exists_of_one hmark₃
  obtain ⟨hs, rfl, hhs, rfl⟩ := exists_of_digits hhour
  obtain rfl := eq_cons_of_one hmark₄
  obtain ⟨is, rfl, his, rfl⟩ := exists_of_digits hminute
  obtain rfl := eq_cons_of_one hmark₅
  obtain ⟨ss, rfl, hss, rfl⟩ := exists_of_digits hsecond
  exact ⟨ys, ms, ds, mark, hs, is, ss, cs, nanos, x, rest, date, clock, minutes, htext,
    ⟨hys, hms, hds⟩, ⟨hhs, his, hss⟩, by simpa [or_assoc] using hmark, eq_some_of_inRange hdate,
    hfraction, eq_some_of_inRange hclock, hoffset, hminutes, rfl⟩

/-- What is read is a date, a time of day and an offset of less than a day. -/
theorem exists_ofLocal_of_read {text : String} {t : Timestamp} (h : read text = .ok t) :
    ∃ date clock minutes, FourDigits date.year ∧ minutes.natAbs < 1440 ∧
      t = .ofLocal date clock minutes := by
  obtain ⟨ys, ms, ds, c, hs, is, ss, cs, nanos, x, rest, date, clock, minutes, -,
    ⟨⟨hlen, hys⟩, -⟩, -, -, hdate, -, -, -, hminutes, rfl⟩ := exists_parts_of_read h
  have hlt := Numeral.ofDigitChars_lt hys
  rw [hlen] at hlt
  refine ⟨date, clock, minutes, ?_, hminutes, rfl⟩
  rw [(Date.of?_eq_some hdate).1.1]
  exact ⟨by omega, by omega⟩

/-- A timestamp that has been read lies at most one year outside of four digits. -/
theorem year_of_read {text : String} {t : Timestamp} (h : read text = .ok t) :
    -1 ≤ t.date.year ∧ t.date.year ≤ 10000 := by
  obtain ⟨date, clock, minutes, hfour, hminutes, rfl⟩ := exists_ofLocal_of_read h
  have hclock : clock.hour * 3600 + clock.minute * 60 + min clock.second 59 < 86400 := by
    have := clock.hour_lt
    have := clock.minute_lt
    omega
  have hseconds : (Timestamp.ofLocal date clock minutes).seconds = date.dayNumber * 86400 +
    (clock.hour * 3600 + clock.minute * 60 + min clock.second 59 : Nat) - minutes * 60 := rfl
  exact year_ofDayNumber hfour (by unfold Timestamp.dayNumber; omega)
    (by unfold Timestamp.dayNumber; omega)

theorem length_text (t : Timestamp) : t.text.length = (yearText t.date.year).length + 20 := by
  have hwidth : ∀ {n : Nat}, n < 10 ^ 2 → (padded 2 n).length = 2 :=
    fun hn => Numeral.length_padded (by decide) hn
  unfold Timestamp.text Date.text
  simp only [List.length_append, List.length_cons, List.length_nil, hwidth t.date.month_lt,
    hwidth t.date.day_lt, hwidth t.hour_lt_pow, hwidth t.minute_lt_pow, hwidth t.second_lt_pow,
    Numeral.length_padded (show 0 < 3 by decide) t.milli_lt]

/-- What is written of a year without four digits starts with a sign, which is no digit. -/
theorem read_text_of_not_fourDigits {t : Timestamp} (h : ¬FourDigits t.date.year) :
    read (String.ofList t.text) = .error .invalid := by
  obtain ⟨sign, rest, htext, hsign⟩ :
      ∃ sign rest, t.text = sign :: rest ∧ sign.isDigit = false := by
    unfold Timestamp.text Date.text
    rw [yearText_of_not_fourDigits h]
    exact ⟨_, _, rfl, isDigit_yearSign _⟩
  have hlen : 19 ≤ octetCount t.text := by
    have := length_text t
    have := length_le_octetCount t.text
    omega
  unfold read
  simp only [String.toList_ofList]
  rw [if_neg (Nat.not_lt.2 hlen), htext, digits, if_neg (by simp [hsign])]
  rfl

end Rfc3339

end BucketDigest.Time
