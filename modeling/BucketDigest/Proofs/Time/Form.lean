import BucketDigest.Proofs.Time.Years

/-!
# The forms of date-like values

A text is read in at most one of the four forms that date-like values have, so it does not matter in
which order they are tried. What tells the forms apart is whether the text starts with a date, and
what follows that date (`Form.of`).

* `Form.eq_of_read?`: no text is read in two forms.
* `findSome?_read?`: any order in which the forms are tried gives what `read?` gives.
-/
namespace BucketDigest.Time

namespace Moment

/-! ## Dates and times of day in digits -/

theorem takeNumber?_digits {n : Nat} {ds : List Char} (h : IsDigits (n + 1) ds)
    (rest : List Char) :
    takeNumber? (n + 1) (ds ++ rest) = some (Nat.ofDigitChars 10 ds 0, rest) := by
  have htake := takeNumber?_append h.ne_nil h.2 rest
  rwa [h.1] at htake

theorem takeDate?_digits {ys ms ds : List Char} (hys : IsDigits 4 ys) (hms : IsDigits 2 ms)
    (hds : IsDigits 2 ds) {date : Date}
    (hdate : Date.of? (Nat.ofDigitChars 10 ys 0 : Nat) (Nat.ofDigitChars 10 ms 0)
      (Nat.ofDigitChars 10 ds 0) = some date) (rest : List Char) :
    takeDate? (ys ++ '-' :: (ms ++ '-' :: (ds ++ rest))) = some (date, rest) := by
  unfold takeDate?
  rw [takeYear?_append hys.1 hys.2]
  simp only [Option.bind_eq_bind, Option.bind_some, takeMark?, if_true, takeNumber?_digits hms,
    takeNumber?_digits hds, hdate, Option.pure_def]

theorem takeClock?_digits {hs is ss : List Char} (hhs : IsDigits 2 hs) (his : IsDigits 2 is)
    (hss : IsDigits 2 ss) {cs rest : List Char} {nanos : Nat}
    (hfraction : Rfc3339.fraction cs = .ok (nanos, rest)) {clock : Clock}
    (hclock : Clock.of? (Nat.ofDigitChars 10 hs 0) (Nat.ofDigitChars 10 is 0)
      (Nat.ofDigitChars 10 ss 0) nanos = some clock) :
    takeClock? (hs ++ ':' :: (is ++ ':' :: (ss ++ cs))) = some (clock, rest) := by
  unfold takeClock?
  simp only [Option.bind_eq_bind, Option.bind_some, takeMark?, if_true, takeNumber?_digits hhs,
    takeNumber?_digits his, takeNumber?_digits hss, hfraction, Except.toOption, hclock,
    Option.pure_def]

theorem whole?_eq_some {α : Type} {x : Option (α × List Char)} {a : α} (h : whole? x = some a) :
    x = some (a, []) := by
  unfold whole? at h
  split at h
  · cases h; rfl
  · cases h

theorem exists_of_takeMark? {c : Char} {cs rest : List Char} (h : takeMark? c cs = some rest) :
    cs = c :: rest := by
  cases cs with
  | nil => cases h
  | cons d cs =>
    rw [takeMark?] at h
    split at h
    · next hd => cases h; rw [hd]
    · cases h

theorem isDigits_of_natural? {ds : List Char} {n : Nat} (h : Numeral.natural? ds = some n) :
    IsDigits ds.length ds :=
  ⟨rfl, (Numeral.natural?_eq_some_iff.1 h).1.2⟩

/-- A period does not start with a date. -/
theorem takeDate?_of_readPeriod? {text : String} {m : Moment} (h : readPeriod? text = some m) :
    takeDate? text.toList = none := by
  unfold readPeriod? at h
  unfold takeDate?
  split at h
  · next a b c d htext =>
    -- Nothing stands behind the year.
    obtain ⟨y, hy, -⟩ := Option.map_eq_some_iff.1 h
    have hyear := takeYear?_append rfl (isDigits_of_natural? hy).2 []
    rw [htext, ← List.append_nil [a, b, c, d], hyear]
    rfl
  · next a b c d e f htext =>
    -- Nothing stands behind the month.
    simp only [Option.bind_eq_bind, Option.bind_eq_some_iff] at h
    obtain ⟨y, hy, n, hn, -⟩ := h
    have hyear := takeYear?_append rfl (isDigits_of_natural? hy).2 ['-', e, f]
    have hmonth := takeNumber?_digits (isDigits_of_natural? hn) []
    rw [List.append_nil] at hmonth
    rw [htext, show [a, b, c, d, '-', e, f] = [a, b, c, d] ++ ['-', e, f] from rfl, hyear]
    have hmonth : takeNumber? 2 [e, f] = some (Nat.ofDigitChars 10 [e, f] 0, []) := hmonth
    simp only [Option.bind_eq_bind, Option.bind_some, takeMark?, if_true, hmonth, Option.bind_none]
  · cases h

/-! ## Forms -/

/-- The forms in which a date-like value can be written. -/
inductive Form
  | zoned
  | unzoned
  | day
  | period
  deriving DecidableEq

namespace Form

/-- The value that a text names in one form. -/
def read? : Form → String → Option Moment
  | .zoned, text => (readZoned? text).map .instant
  | .unzoned, text => (readUnzoned? text).map .instant
  | .day, text => (readDay? text).map .day
  | .period, text => readPeriod? text

/-- The one form that a text can have: a date may be followed by nothing, by the time of day alone,
or by more than that. A period does not start with a date. -/
def of (cs : List Char) : Form :=
  match takeDate? cs with
  | none => .period
  | some (_, []) => .day
  | some (_, c :: u) =>
    if c = 'T' ∧ (takeClock? u).map Prod.snd = some [] then .unzoned else .zoned

theorem of_eq_zoned {text : String} {t : Timestamp} (h : readZoned? text = some t) :
    of text.toList = .zoned := by
  obtain ⟨ys, ms, ds, mark, hs, is, ss, cs, nanos, x, rest, date, clock, -, htext,
    ⟨hys, hms, hds⟩, ⟨hhs, his, hss⟩, -, hdate, hfraction, hclock, -⟩ :=
    Rfc3339.exists_parts_of_read (read_of_readZoned? h)
  unfold of
  -- The time of day is found here too, with the offset left over.
  rw [htext, takeDate?_digits hys hms hds hdate]
  dsimp only
  rw [takeClock?_digits hhs his hss hfraction hclock, if_neg]
  rintro ⟨-, hnil⟩
  cases hnil

theorem of_eq_unzoned {text : String} {t : Timestamp} (h : readUnzoned? text = some t) :
    of text.toList = .unzoned := by
  have h := whole?_eq_some h
  simp only [Option.bind_eq_bind, Option.bind_eq_some_iff] at h
  obtain ⟨⟨d, _⟩, hdate, u, hmark, ⟨clock, _⟩, hclock, h⟩ := h
  cases h
  obtain rfl := exists_of_takeMark? hmark
  unfold of
  rw [hdate]
  dsimp only
  rw [hclock, if_pos ⟨rfl, rfl⟩]

theorem of_eq_period {text : String} {m : Moment} (h : readPeriod? text = some m) :
    of text.toList = .period := by
  rw [of, takeDate?_of_readPeriod? h]

/-- A text is read in no form but the one that it can have. -/
theorem of_eq_of_read? {f : Form} {text : String} {m : Moment} (h : f.read? text = some m) :
    of text.toList = f := by
  cases f with
  | zoned =>
    obtain ⟨t, ht, -⟩ := Option.map_eq_some_iff.1 h
    exact of_eq_zoned ht
  | unzoned =>
    obtain ⟨t, ht, -⟩ := Option.map_eq_some_iff.1 h
    exact of_eq_unzoned ht
  | day =>
    obtain ⟨d, hd, -⟩ := Option.map_eq_some_iff.1 h
    rw [of, whole?_eq_some hd]
  | period => exact of_eq_period h

/-- No text is read in two forms. -/
theorem eq_of_read? {f f' : Form} {text : String} {m m' : Moment} (h : f.read? text = some m)
    (h' : f'.read? text = some m') : f = f' :=
  (of_eq_of_read? h).symm.trans (of_eq_of_read? h')

/-- Trying all forms in some order finds a value just if the text is read in one of them. -/
theorem findSome?_eq_some_iff {order : List Form} (hall : ∀ f, f ∈ order) {text : String}
    {m : Moment} : order.findSome? (·.read? text) = some m ↔ ∃ f : Form, f.read? text = some m := by
  constructor
  · intro h
    obtain ⟨f, -, hf⟩ := List.exists_of_findSome?_eq_some h
    exact ⟨f, hf⟩
  · rintro ⟨f, hf⟩
    cases hfound : order.findSome? (·.read? text) with
    | none =>
      have hnone := List.findSome?_eq_none_iff.1 hfound f (hall f)
      rw [hf] at hnone
      cases hnone
    | some m' =>
      obtain ⟨f', -, hf'⟩ := List.exists_of_findSome?_eq_some hfound
      obtain rfl := eq_of_read? hf hf'
      exact hf'.symm.trans hf

/-- All forms, in the order in which they are tried. -/
def all : List Form := [.zoned, .unzoned, .day, .period]

theorem mem_all (f : Form) : f ∈ all := by
  cases f <;> decide

end Form

theorem read?_eq_findSome? (text : String) : read? text = Form.all.findSome? (·.read? text) := by
  unfold read? Form.all
  simp only [List.findSome?_cons, List.findSome?_nil, Form.read?]
  cases (readZoned? text).map instant <;> cases (readUnzoned? text).map instant <;>
    cases (readDay? text).map day <;> cases readPeriod? text <;> rfl

/-- A text names a value just if it is read in one of the forms. -/
theorem read?_eq_some_iff {text : String} {m : Moment} :
    read? text = some m ↔ ∃ f : Form, f.read? text = some m := by
  rw [read?_eq_findSome?]
  exact Form.findSome?_eq_some_iff Form.mem_all

theorem read?_eq_none_iff {text : String} :
    read? text = none ↔ ∀ f : Form, f.read? text = none := by
  rw [read?_eq_findSome?, List.findSome?_eq_none_iff]
  exact ⟨fun h f => h f (Form.mem_all f), fun h f _ => h f⟩

/-- The order in which the forms are tried does not matter. -/
theorem findSome?_read? {order : List Form} (hall : ∀ f, f ∈ order) (text : String) :
    order.findSome? (·.read? text) = read? text := by
  ext m
  rw [Form.findSome?_eq_some_iff hall, read?_eq_some_iff]

end Moment

end BucketDigest.Time
