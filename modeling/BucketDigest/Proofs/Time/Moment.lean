import BucketDigest.Proofs.Text.Blank
import BucketDigest.Proofs.Time.Rfc3339
import BucketDigest.Time.Moment

/-!
# Date-like values that are read back

Years, months and timestamps of years with four digits are read as what they were written from, and
dates are whatever their years. None of them has the form of another: what is too short for a
timestamp is tried as a date, and what is too short for a date is a period.
-/
namespace BucketDigest.Time

open Numeral (padded EndsDigits endsDigits_cons)

namespace Moment

/-! ## Characters -/

theorem utf8Size_of_isDigit {c : Char} (h : c.isDigit = true) : c.utf8Size = 1 := by
  obtain ⟨-, hhigh⟩ := Numeral.toNat_of_isDigit h
  exact Char.utf8Size_eq_one_iff.2 (UInt32.le_iff_toNat_le.2 (Nat.le_trans hhigh (by decide)))

theorem octetCount_eq_length {cs : List Char} (h : ∀ c ∈ cs, c.utf8Size = 1) :
    Rfc3339.octetCount cs = cs.length := by
  induction cs with
  | nil => rfl
  | cons c cs ih =>
    obtain ⟨hc, hcs⟩ := List.forall_mem_cons.1 h
    show c.utf8Size + Rfc3339.octetCount cs = cs.length + 1
    rw [hc, ih hcs, Nat.add_comm]

/-! ## Parts -/

theorem trimStart_append {ds : List Char} (hne : ds ≠ []) (hds : ∀ c ∈ ds, c.isDigit = true)
    (rest : List Char) : Text.trimStart (ds ++ rest) = ds ++ rest :=
  Text.trimStart_append hne (fun c hc => Text.isBlank_of_isDigit (hds c hc)) rest

/-- A number of as many digits as there may be. -/
theorem takeNumber?_append {ds : List Char} (hne : ds ≠ []) (hds : ∀ c ∈ ds, c.isDigit = true)
    (rest : List Char) :
    takeNumber? ds.length (ds ++ rest) = some (Nat.ofDigitChars 10 ds 0, rest) := by
  have htake : ((ds ++ rest).takeWhile Char.isDigit).take ds.length = ds := by
    rw [List.takeWhile_append_of_pos hds, List.take_left]
  unfold takeNumber?
  simp only [trimStart_append hne hds, htake, if_neg hne, List.drop_left]

theorem takeNumber?_padded {width n : Nat} (hwidth : 0 < width) (h : n < 10 ^ width)
    (rest : List Char) : takeNumber? width (padded width n ++ rest) = some (n, rest) := by
  have htake := takeNumber?_append (Numeral.padded_ne_nil width n)
    (fun c hc => Numeral.isDigit_of_mem_padded hc) rest
  rwa [Numeral.length_padded hwidth h, Numeral.ofDigitChars_padded] at htake

/-- A year that starts with a digit has no sign. -/
theorem takeYear?_of_digits {ds : List Char} (hne : ds ≠ []) (hds : ∀ c ∈ ds, c.isDigit = true)
    (rest : List Char) :
    takeYear? (ds ++ rest) =
      (takeNumber? 4 (ds ++ rest)).map fun (n, rest) => ((n : Int), rest) := by
  have hsign : ∀ c cs, c.isDigit = false → ds ++ rest ≠ c :: cs := by
    intro c cs hc he
    obtain ⟨d, ds, rfl⟩ := List.exists_cons_of_ne_nil hne
    rw [List.cons_append, List.cons.injEq] at he
    rw [← he.1, hds d (List.mem_cons_self ..)] at hc
    cases hc
  unfold takeYear?
  rw [trimStart_append hne hds]
  split
  · next he => exact absurd he (hsign _ _ rfl)
  · next he => exact absurd he (hsign _ _ rfl)
  · rfl

/-- A year of four digits. -/
theorem takeYear?_append {ds : List Char} (hlen : ds.length = 4)
    (hds : ∀ c ∈ ds, c.isDigit = true) (rest : List Char) :
    takeYear? (ds ++ rest) = some ((Nat.ofDigitChars 10 ds 0 : Int), rest) := by
  have hne : ds ≠ [] := by
    rintro rfl
    cases hlen
  have htake := takeNumber?_append hne hds rest
  rw [hlen] at htake
  rw [takeYear?_of_digits hne hds, htake, Option.map_some]

theorem takeYear?_padded {n : Nat} (h : n < 10 ^ 4) (rest : List Char) :
    takeYear? (padded 4 n ++ rest) = some ((n : Int), rest) := by
  have htake := takeYear?_append (Numeral.length_padded (by decide) h)
    (fun c hc => Numeral.isDigit_of_mem_padded hc) rest
  rwa [Numeral.ofDigitChars_padded] at htake

theorem takeDigits?_append {ds rest : List Char} (hne : ds ≠ [])
    (hds : ∀ c ∈ ds, c.isDigit = true) (hrest : EndsDigits rest) :
    takeDigits? (ds ++ rest) = some (Nat.ofDigitChars 10 ds 0, rest) := by
  unfold takeDigits?
  rw [hrest.takeWhile_append hds, hrest.dropWhile_append hds, if_neg hne]

/-- A year with a sign is read up to its last digit. -/
theorem takeYear?_sign {width n : Nat} {year : Int} {sign : Char}
    (hsign : sign = '-' ∧ year = -(n : Int) ∨ sign = '+' ∧ year = n) {rest : List Char}
    (hrest : EndsDigits rest) :
    takeYear? (sign :: padded width n ++ rest) = some (year, rest) := by
  have hdigits : takeDigits? (padded width n ++ rest) = some (n, rest) := by
    rw [takeDigits?_append (Numeral.padded_ne_nil width n)
      (fun c hc => Numeral.isDigit_of_mem_padded hc) hrest, Numeral.ofDigitChars_padded]
  unfold takeYear?
  rcases hsign with ⟨rfl, rfl⟩ | ⟨rfl, rfl⟩
  · rw [show Text.trimStart ('-' :: padded width n ++ rest) = '-' :: (padded width n ++ rest) from
      List.dropWhile_cons_of_neg (by decide)]
    simp only [hdigits, Option.map_some]
  · rw [show Text.trimStart ('+' :: padded width n ++ rest) = '+' :: (padded width n ++ rest) from
      List.dropWhile_cons_of_neg (by decide)]
    simp only [hdigits, Option.map_some]

theorem takeYear?_yearText (year : Int) {rest : List Char} (hrest : EndsDigits rest) :
    takeYear? (yearText year ++ rest) = some (year, rest) := by
  by_cases h : FourDigits year
  · rw [yearText_of_fourDigits h, takeYear?_padded h.toNat_lt, Int.toNat_of_nonneg h.1]
  · rw [yearText_of_not_fourDigits h]
    refine takeYear?_sign ?_ hrest
    unfold yearSign
    split
    · exact .inl ⟨rfl, by omega⟩
    · exact .inr ⟨rfl, by omega⟩

theorem takeDate?_text_append {d : Date} (h : InRange d.year) (rest : List Char) :
    takeDate? (d.text ++ rest) = some (d, rest) := by
  have htext : d.text ++ rest = yearText d.year ++ '-' :: (padded 2 d.month ++ '-' ::
      (padded 2 d.day ++ rest)) := by
    unfold Date.text
    simp only [List.append_assoc, List.cons_append]
  unfold takeDate?
  rw [htext, takeYear?_yearText d.year (endsDigits_cons rfl _)]
  simp only [Option.bind_eq_bind, Option.bind_some, takeMark?, if_true,
    takeNumber?_padded (show 0 < 2 by decide) d.month_lt,
    takeNumber?_padded (show 0 < 2 by decide) d.day_lt, Date.of?_parts h, Option.pure_def]

theorem takeDate?_text {d : Date} (h : InRange d.year) : takeDate? d.text = some (d, []) := by
  have htake := takeDate?_text_append h []
  rwa [List.append_nil] at htake

/-! ## Whole values -/

theorem readZoned?_of_short {cs : List Char} (hascii : ∀ c ∈ cs, c.utf8Size = 1)
    (hlen : cs.length < 19) : readZoned? (String.ofList cs) = none := by
  unfold readZoned? Rfc3339.read
  simp only [String.toList_ofList]
  rw [if_pos (by rwa [octetCount_eq_length hascii])]
  rfl

/-- A text that ends with its date, or before, is no timestamp. -/
theorem readUnzoned?_of_takeDate? {cs : List Char}
    (h : ∀ d rest, takeDate? cs = some (d, rest) → rest = []) :
    readUnzoned? (String.ofList cs) = none := by
  unfold readUnzoned?
  rw [String.toList_ofList]
  cases hd : takeDate? cs with
  | none => rfl
  | some x =>
    obtain ⟨d, rest⟩ := x
    obtain rfl := h d rest hd
    rfl

/-- A text in which no date is found, and which is too short for a timestamp, names a period. -/
theorem read?_of_short {cs : List Char} (hascii : ∀ c ∈ cs, c.utf8Size = 1)
    (hlen : cs.length < 19) (hdate : takeDate? cs = none) :
    read? (String.ofList cs) = readPeriod? (String.ofList cs) := by
  have hday : readDay? (String.ofList cs) = none := by
    unfold readDay?
    rw [String.toList_ofList, hdate]
    rfl
  unfold read?
  rw [readZoned?_of_short hascii hlen, readUnzoned?_of_takeDate? (by rw [hdate]; exact nofun), hday]
  rfl

theorem utf8Size_of_mem_padded {width n : Nat} {c : Char} (h : c ∈ padded width n) :
    c.utf8Size = 1 :=
  utf8Size_of_isDigit (Numeral.isDigit_of_mem_padded h)

/-- A year of four digits is read as it was written. -/
theorem read?_year {n : Nat} (h : n < 10 ^ 4) :
    read? (String.ofList (padded 4 n)) = some (.year n) := by
  have hlen := Numeral.length_padded (show 0 < 4 by decide) h
  have hdate : takeDate? (padded 4 n) = none := by
    have hyear := takeYear?_padded h []
    rw [List.append_nil] at hyear
    unfold takeDate?
    rw [hyear]
    rfl
  rw [read?_of_short (fun c hc => utf8Size_of_mem_padded hc) (by omega) hdate]
  have hnatural := Numeral.natural?_padded 4 n
  unfold readPeriod?
  rw [String.toList_ofList]
  match hp : padded 4 n, hlen with
  | [a, b, c, d], _ =>
    rw [hp] at hnatural
    simp only [hnatural]
    rfl

/-- A month of a year of four digits is read as it was written. -/
theorem read?_month {n m : Nat} (h : n < 10 ^ 4) (hpos : 1 ≤ m) (hle : m ≤ 12) :
    read? (String.ofList (padded 4 n ++ '-' :: padded 2 m)) = some (.month n m) := by
  have hm : m < 10 ^ 2 := by omega
  have hlen := Numeral.length_padded (show 0 < 4 by decide) h
  have hlen' := Numeral.length_padded (show 0 < 2 by decide) hm
  have hascii : ∀ c ∈ padded 4 n ++ '-' :: padded 2 m, c.utf8Size = 1 := by
    intro c hc
    rcases List.mem_append.1 hc with hc | hc
    · exact utf8Size_of_mem_padded hc
    · rcases List.mem_cons.1 hc with rfl | hc
      · rfl
      · exact utf8Size_of_mem_padded hc
  have hdate : takeDate? (padded 4 n ++ '-' :: padded 2 m) = none := by
    have hmonth := takeNumber?_padded (show 0 < 2 by decide) hm []
    rw [List.append_nil] at hmonth
    unfold takeDate?
    rw [takeYear?_padded h]
    simp only [Option.bind_eq_bind, Option.bind_some, takeMark?, if_true, hmonth,
      Option.bind_none]
  rw [read?_of_short hascii (by simp only [List.length_append, List.length_cons]; omega) hdate]
  have hyear := Numeral.natural?_padded 4 n
  have hmonth := Numeral.natural?_padded 2 m
  unfold readPeriod?
  rw [String.toList_ofList]
  match hp : padded 4 n, hlen, hp' : padded 2 m, hlen' with
  | [a, b, c, d], _, [e, f], _ =>
    rw [hp] at hyear
    rw [hp'] at hmonth
    simp only [List.cons_append, List.nil_append, hyear, hmonth, Option.bind_eq_bind,
      Option.bind_some, hpos, hle, and_self, if_true]

theorem length_yearText_le {year : Int} (h : InRange year) : (yearText year).length ≤ 7 := by
  have hbound : year.natAbs < 10 ^ 6 := by
    unfold InRange firstYear lastYear at h
    omega
  by_cases hyear : FourDigits year
  · rw [yearText_of_fourDigits hyear, Numeral.length_padded (by decide) hyear.toNat_lt]
    decide
  · rw [yearText_of_not_fourDigits hyear, List.length_cons]
    exact Nat.succ_le_succ (Numeral.length_padded_le (by decide) (by decide) hbound)

theorem utf8Size_of_mem_yearText {year : Int} {c : Char} (h : c ∈ yearText year) :
    c.utf8Size = 1 := by
  by_cases hyear : FourDigits year
  · rw [yearText_of_fourDigits hyear] at h
    exact utf8Size_of_mem_padded h
  · rw [yearText_of_not_fourDigits hyear] at h
    rcases List.mem_cons.1 h with rfl | h
    · unfold yearSign
      split <;> rfl
    · exact utf8Size_of_mem_padded h

/-- A date is read as it was written, whatever its year. -/
theorem read?_day {d : Date} (h : InRange d.year) :
    read? (String.ofList d.text) = some (.day d) := by
  have htake := takeDate?_text h
  have hascii : ∀ c ∈ d.text, c.utf8Size = 1 := by
    unfold Date.text
    intro c hc
    simp only [List.mem_append, List.mem_cons] at hc
    rcases hc with (hc | rfl | hc) | rfl | hc
    · exact utf8Size_of_mem_yearText hc
    · rfl
    · exact utf8Size_of_mem_padded hc
    · rfl
    · exact utf8Size_of_mem_padded hc
  have hlen : d.text.length < 19 := by
    have := length_yearText_le h
    unfold Date.text
    simp only [List.length_append, List.length_cons,
      Numeral.length_padded (show 0 < 2 by decide) d.month_lt,
      Numeral.length_padded (show 0 < 2 by decide) d.day_lt]
    omega
  have hunzoned : readUnzoned? (String.ofList d.text) = none :=
    readUnzoned?_of_takeDate? fun d' rest h' => by
      rw [htake] at h'
      cases h'
      rfl
  have hday : readDay? (String.ofList d.text) = some d := by
    unfold readDay?
    rw [String.toList_ofList, htake]
    rfl
  unfold read?
  rw [readZoned?_of_short hascii hlen, hunzoned, hday]
  rfl

/-- A timestamp of a year of four digits is read as it was written. -/
theorem read?_instant {t : Timestamp} (h : FourDigits t.date.year) :
    read? (String.ofList t.text) = some (.instant t.truncated) := by
  unfold read? readZoned?
  rw [Rfc3339.read_text h]
  rfl

/-! ## Values that are read -/

theorem read_of_readZoned? {text : String} {t : Timestamp} (h : readZoned? text = some t) :
    Rfc3339.read text = .ok t := by
  unfold readZoned? at h
  cases hread : Rfc3339.read text with
  | error fault => rw [hread] at h; cases h
  | ok t' => rw [hread] at h; cases h; rfl

/-- A value that is read is a timestamp of either kind, a date or a period. -/
theorem read?_cases {text : String} {m : Moment} (h : read? text = some m) :
    (∃ t, readZoned? text = some t ∧ m = .instant t) ∨
      (∃ t, readUnzoned? text = some t ∧ m = .instant t) ∨
      (∃ d, readDay? text = some d ∧ m = .day d) ∨ readPeriod? text = some m := by
  unfold read? at h
  cases hz : readZoned? text with
  | some t => rw [hz] at h; cases h; exact .inl ⟨t, rfl, rfl⟩
  | none =>
    cases hu : readUnzoned? text with
    | some t => rw [hz, hu] at h; cases h; exact .inr (.inl ⟨t, rfl, rfl⟩)
    | none =>
      cases hd : readDay? text with
      | some d => rw [hz, hu, hd] at h; cases h; exact .inr (.inr (.inl ⟨d, rfl, rfl⟩))
      | none => rw [hz, hu, hd] at h; exact .inr (.inr (.inr h))

/-- A period is a year, or a month of the calendar. -/
theorem readPeriod?_cases {text : String} {m : Moment} (h : readPeriod? text = some m) :
    (∃ y, m = .year y) ∨ ∃ y k, m = .month y k ∧ 1 ≤ k ∧ k ≤ 12 := by
  unfold readPeriod? at h
  split at h
  · obtain ⟨y, -, rfl⟩ := Option.map_eq_some_iff.1 h
    exact .inl ⟨y, rfl⟩
  · simp only [Option.bind_eq_bind, Option.bind_eq_some_iff] at h
    obtain ⟨y, -, k, -, hk⟩ := h
    split at hk
    · next hrange => cases hk; exact .inr ⟨y, k, rfl, hrange⟩
    · cases hk
  · cases h

/-- A month that a value names is a month of the calendar. -/
theorem month_of_read? {text : String} {y m : Nat} (h : read? text = some (.month y m)) :
    1 ≤ m ∧ m ≤ 12 := by
  obtain ⟨t, -, hm⟩ | ⟨t, -, hm⟩ | ⟨d, -, hm⟩ | hperiod := read?_cases h
  · cases hm
  · cases hm
  · cases hm
  · obtain ⟨y', hm⟩ | ⟨y', k, hm, hrange⟩ := readPeriod?_cases hperiod
    · cases hm
    · cases hm
      exact hrange

end Moment

end BucketDigest.Time
