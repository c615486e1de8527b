import BucketDigest.Aggregation
import BucketDigest.Proofs.Aggregation.Widths
import BucketDigest.Proofs.Time.Moment

/-!
# Labels of labels

A label can be labelled again. Where one rule refines another, the coarse label of a fine label is
the coarse label of the value that the fine label was made from.

* Dates: a label reads as the part of the value that the granularity keeps (`read?_text?`).
* Integers: a multiple of a width lies in the same wider bucket as the value above it
  (`floor_floor`).
* Prefixes: the prefix of a longer prefix.

Main statement: `Rule.Refines.label_label`.
-/
namespace BucketDigest

open Time (Moment FourDigits)

/-! ## Dates -/

theorem yearLabel_of_fourDigits {year : Int} (h : FourDigits year) :
    yearLabel year = Numeral.padded 4 year.toNat := by
  have hnonneg := h.1
  unfold yearLabel
  rw [if_neg (by omega), show year.natAbs = year.toNat by omega]

/-- The month that a date-like value falls in is a month of the calendar. -/
theorem Time.Moment.monthNumber?_range {raw : String} {m : Moment}
    (hread : Moment.read? raw = some m) {month : Nat} (h : m.monthNumber? = some month) :
    1 ≤ month ∧ month ≤ 12 := by
  cases m with
  | year y => cases h
  | month y k => cases h; exact Moment.month_of_read? hread
  | day d => cases h; exact ⟨d.month_pos, d.month_le⟩
  | instant t => cases h; exact ⟨t.date.month_pos, t.date.month_le⟩

/-- The label of a date-like value is a date-like value, and no coarser label tells the two
apart. -/
theorem DateGranularity.read?_text? {g : DateGranularity} {raw : String} {m : Moment}
    (hread : Moment.read? raw = some m) (hyear : FourDigits m.yearNumber) {text : List Char}
    (h : g.text? m = some text) :
    ∃ m', Moment.read? (String.ofList text) = some m' ∧ ∀ g' ≤ g, g'.text? m' = g'.text? m := by
  have htoNat : ((m.yearNumber.toNat : Nat) : Int) = m.yearNumber := Int.toNat_of_nonneg hyear.1
  cases g with
  | yearly =>
    cases h
    rw [yearLabel_of_fourDigits hyear]
    refine ⟨_, Moment.read?_year hyear.toNat_lt, fun g' hg' => ?_⟩
    cases g' with
    | yearly => exact congrArg (fun y => some (yearLabel y)) htoNat
    | monthly | daily | individual => exact absurd hg' (by decide)
  | monthly =>
    obtain ⟨month, hmonth, rfl⟩ := Option.map_eq_some_iff.1 h
    obtain ⟨hpos, hle⟩ := Moment.monthNumber?_range hread hmonth
    rw [yearLabel_of_fourDigits hyear]
    refine ⟨_, Moment.read?_month hyear.toNat_lt hpos hle, fun g' hg' => ?_⟩
    cases g' with
    | yearly => exact congrArg (fun y => some (yearLabel y)) htoNat
    | monthly =>
      simp only [text?, hmonth]
      exact congrArg (fun y => some (yearLabel y ++ '-' :: Numeral.padded 2 month)) htoNat
    | daily | individual => exact absurd hg' (by decide)
  | daily =>
    obtain ⟨d, hd, rfl⟩ := Option.map_eq_some_iff.1 h
    obtain rfl | ⟨t, rfl, rfl⟩ : m = .day d ∨ ∃ t, m = .instant t ∧ t.date = d := by
      cases m <;> cases hd
      · exact .inl rfl
      · exact .inr ⟨_, rfl, rfl⟩
    · exact ⟨_, Moment.read?_day hyear.inRange, fun _ _ => rfl⟩
    · refine ⟨_, Moment.read?_day hyear.inRange, fun g' hg' => ?_⟩
      cases g' with
      | yearly | monthly | daily => rfl
      | individual => exact absurd hg' (by decide)
  | individual =>
    obtain ⟨t, ht, rfl⟩ := Option.map_eq_some_iff.1 h
    obtain rfl : m = .instant t := by cases m <;> cases ht; rfl
    refine ⟨_, Moment.read?_instant hyear, fun g' _ => ?_⟩
    cases g' with
    | yearly | monthly | daily => rfl
    | individual => exact congrArg some t.text_truncated

/-! ## Integers -/

namespace IntegerGranularity

theorem exists_width_eq (g : IntegerGranularity) : ∃ k : Nat, g.width = (10 ^ k : Nat) := by
  obtain ⟨-, k, -, hk⟩ := isBucketWidth_iff.1 g.isBucketWidth
  exact ⟨k, hk.trans (Int.natCast_pow 10 k).symm⟩

theorem width_pos (g : IntegerGranularity) : 0 < g.width := by
  have := g.isBucketWidth.1
  omega

/-- Of two widths, the smaller divides the larger. -/
theorem width_dvd {g g' : IntegerGranularity} (h : g.width ≤ g'.width) : g.width ∣ g'.width := by
  obtain ⟨j, hj⟩ := g.exists_width_eq
  obtain ⟨k, hk⟩ := g'.exists_width_eq
  rw [hj, hk] at h ⊢
  have hle : 10 ^ j ≤ 10 ^ k := Int.ofNat_le.1 h
  exact Int.natCast_dvd_natCast.2
    (Nat.pow_dvd_pow 10 ((Nat.pow_le_pow_iff_right (by decide)).1 hle))

/-- A value and the lower end of its bucket lie in the same wider bucket. -/
theorem floor_floor {v w w' : Int} (hw : 0 < w) (hdvd : w ∣ w') : v / w * w / w' = v / w' := by
  obtain ⟨q, rfl⟩ := hdvd
  rw [← Int.ediv_ediv_of_nonneg (Int.le_of_lt hw), Int.mul_ediv_cancel _ (Int.ne_of_gt hw),
    Int.ediv_ediv_of_nonneg (Int.le_of_lt hw)]

end IntegerGranularity

/-! ## Rules -/

/-- One rule tells at least as many values apart as another of its kind. -/
inductive Rule.Refines : Rule → Rule → Prop
  | date {fine coarse : DateGranularity} (h : coarse ≤ fine) : Refines (.date fine) (.date coarse)
  | integer {fine coarse : IntegerGranularity} (h : fine.width ≤ coarse.width) :
    Refines (.integer fine) (.integer coarse)
  | textPrefix {fine coarse : Offsets} (h : coarse.prefixLength ≤ fine.prefixLength) :
    Refines (.textPrefix fine) (.textPrefix coarse)

/-- A value that is read as a date lies in a year with four digits. -/
def Rule.Dated : Rule → String → Prop
  | .date _, raw => ∀ m, Moment.read? raw = some m → FourDigits m.yearNumber
  | _, _ => True

theorem DateGranularity.label_eq_ok_iff {g : DateGranularity} {raw label : String} :
    g.label raw = .ok label ↔
      ∃ m text, Moment.read? raw = some m ∧ g.text? m = some text ∧ String.ofList text = label := by
  unfold DateGranularity.label
  cases Moment.read? raw with
  | none => simp
  | some m =>
    have hnone := g.text?_eq_none_iff m
    cases htext : g.text? m with
    | none => simp [htext, hnone.1 htext]
    | some text =>
      have hprecise : ¬m.precision < g := fun hlt => by
        rw [hnone.2 hlt] at htext
        cases htext
      simp [htext, hprecise]

theorem IntegerGranularity.label_eq_ok_iff {g : IntegerGranularity} {raw label : String} :
    g.label raw = .ok label ↔
      ∃ v, Numeral.int64? raw.toList = some v ∧ Numeral.FitsInt64 (v / g.width * g.width) ∧
        String.ofList (Numeral.decimal (v / g.width * g.width)) = label := by
  unfold IntegerGranularity.label bucketFloor?
  cases Numeral.int64? raw.toList with
  | none => simp
  | some v =>
    by_cases hfits : Numeral.FitsInt64 (v / g.width * g.width) <;> simp [hfits]

/-- **Labels of labels.** Where one rule refines another, the coarse label of a fine label is the
coarse label of the value. -/
theorem Rule.Refines.label_label {fine coarse : Rule} (h : fine.Refines coarse)
    {raw label label' : String} (hdated : fine.Dated raw) (hfine : fine.label raw = .ok label)
    (hcoarse : coarse.label raw = .ok label') : coarse.label label = .ok label' := by
  cases h with
  | date hle =>
    obtain ⟨m, text, hread, htext, rfl⟩ := DateGranularity.label_eq_ok_iff.1 hfine
    obtain ⟨m₂, text', hread₂, htext', rfl⟩ := DateGranularity.label_eq_ok_iff.1 hcoarse
    obtain rfl : m = m₂ := Option.some.inj (hread.symm.trans hread₂)
    obtain ⟨m', hread', hsame⟩ := DateGranularity.read?_text? hread (hdated m hread) htext
    exact DateGranularity.label_eq_ok_iff.2 ⟨m', text', hread', (hsame _ hle).trans htext', rfl⟩
  | @integer g g' hle =>
    obtain ⟨v, hread, hfits, rfl⟩ := IntegerGranularity.label_eq_ok_iff.1 hfine
    obtain ⟨v₂, hread₂, hfits', rfl⟩ := IntegerGranularity.label_eq_ok_iff.1 hcoarse
    obtain rfl : v = v₂ := Option.some.inj (hread.symm.trans hread₂)
    have hfloor : v / g.width * g.width / g'.width = v / g'.width :=
      IntegerGranularity.floor_floor g.width_pos (IntegerGranularity.width_dvd hle)
    refine IntegerGranularity.label_eq_ok_iff.2 ⟨v / g.width * g.width, ?_, ?_, ?_⟩
    · rw [String.toList_ofList, Numeral.int64?_decimal hfits]
    · rwa [hfloor]
    · rw [hfloor]
  | textPrefix hle =>
    cases hfine
    cases hcoarse
    have hle : _ ≤ _ := UInt64.le_iff_toNat_le.1 hle
    simp only [Rule.label, Offsets.label, String.toList_ofList, List.take_take, Nat.min_eq_left hle]

end BucketDigest
