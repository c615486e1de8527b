import Mathlib.Order.Bounds.Basic
import BucketDigest.Proofs.Aggregation.Coarsening

/-!
# Buckets of integers

The bucket of a 64-bit integer starts at the greatest multiple of the width that is not above it,
unless that is below every 64-bit integer; nothing else on the way to it overflows. A text has a
label just if it stands for an integer with a bucket, and the labels tell apart the buckets and
nothing else.

* `floorQuotient?`: the quotient as it is computed, in steps of 64 bits.
* `isGreatest_multiple`: the product of quotient and width is the greatest multiple.

Main statement: `IntegerGranularity.integer_buckets_are_exact`.
-/
namespace BucketDigest

open Numeral (FitsInt64 Denotes int64Min int64Max int64? decimal)

namespace IntegerGranularity

variable {g : IntegerGranularity} {v v' w m m' : Int} {raw raw' label label' : String}

/-! ## The quotient in 64 bits -/

/-- An integer, unless it does not fit into 64 bits. -/
def fitted? (n : Int) : Option Int := if FitsInt64 n then some n else none

/-- The quotient by a positive width, rounded down: division rounds towards zero, and where a
negative remainder shows that this went up, one is taken away. Nothing if a step overflows. -/
def floorQuotient? (v w : Int) : Option Int := do
  let quotient ← fitted? (v.tdiv w)
  let remainder ← fitted? (v.tmod w)
  if remainder < 0 then fitted? (quotient - 1) else some quotient

theorem fitted?_of_fits (h : FitsInt64 v) : fitted? v = some v := if_pos h

theorem natAbs_tmod_lt (hw : 0 < w) (v : Int) : (v.tmod w).natAbs < w.natAbs := by
  rw [Int.natAbs_tmod]
  exact Nat.mod_lt _ (Int.natAbs_pos.2 (Int.ne_of_gt hw))

/-- Rounding towards zero and rounding down differ by one just where a remainder is negative. -/
theorem ediv_eq_tdiv (hw : 0 < w) (v : Int) :
    v / w = if v.tmod w < 0 then v.tdiv w - 1 else v.tdiv w := by
  have hsum : v.tmod w + w * v.tdiv w = v := Int.tmod_add_mul_tdiv v w
  have habs := natAbs_tmod_lt hw v
  split
  · next hneg =>
    refine ((Int.ediv_emod_unique hw (r := v.tmod w + w)).2 ⟨?_, by omega, by omega⟩).1
    rw [Int.mul_sub]
    omega
  · next hnonneg =>
    exact ((Int.ediv_emod_unique hw).2 ⟨hsum, by omega, by omega⟩).1

/-- A width of ten or more takes the quotient far away from the ends of the range. -/
theorem floorQuotient?_eq (g : IntegerGranularity) (h : FitsInt64 v) :
    floorQuotient? v g.width = some (v / g.width) := by
  obtain ⟨hten, hmax, -⟩ := g.isBucketWidth
  have hquotient : (v.tdiv g.width).natAbs ≤ v.natAbs / 10 := by
    rw [Int.natAbs_tdiv]
    exact Nat.div_le_div_left (by omega) (by decide)
  have hremainder := natAbs_tmod_lt g.width_pos v
  have hfits : FitsInt64 (v.tdiv g.width) ∧ FitsInt64 (v.tdiv g.width - 1) ∧
      FitsInt64 (v.tmod g.width) := by
    unfold FitsInt64 int64Min int64Max at *
    omega
  unfold floorQuotient?
  rw [fitted?_of_fits hfits.1, fitted?_of_fits hfits.2.2, ediv_eq_tdiv g.width_pos]
  simp only [Option.bind_eq_bind, Option.bind_some]
  split
  · exact fitted?_of_fits hfits.2.1
  · rfl

/-! ## The lower end of a bucket -/

/-- The lower end of the bucket of an integer, were there no limit to integers. -/
def lowerEnd (g : IntegerGranularity) (v : Int) : Int := v / g.width * g.width

theorem isGreatest_lowerEnd (g : IntegerGranularity) (v : Int) :
    IsGreatest {m | g.width ∣ m ∧ m ≤ v} (g.lowerEnd v) := by
  refine ⟨⟨Int.dvd_mul_left .., Int.ediv_mul_le _ (Int.ne_of_gt g.width_pos)⟩, ?_⟩
  rintro m ⟨⟨q, rfl⟩, hle⟩
  rw [Int.mul_comm] at hle ⊢
  exact Int.mul_le_mul_of_nonneg_right (Int.le_ediv_of_mul_le g.width_pos hle)
    (Int.le_of_lt g.width_pos)

theorem lowerEnd_mono (g : IntegerGranularity) (h : v ≤ v') : g.lowerEnd v ≤ g.lowerEnd v' :=
  Int.mul_le_mul_of_nonneg_right (Int.ediv_le_ediv g.width_pos h) (Int.le_of_lt g.width_pos)

theorem bucketFloor?_eq_some_iff :
    g.bucketFloor? v = some m ↔ FitsInt64 (g.lowerEnd v) ∧ g.lowerEnd v = m := by
  show (if _ then some _ else none) = some m ↔ _
  rw [Option.ite_none_right_eq_some, Option.some.injEq]
  rfl

/-- The lower end of a bucket overflows at the bottom of the range only. -/
theorem fitsInt64_lowerEnd_iff (h : FitsInt64 v) :
    FitsInt64 (g.lowerEnd v) ↔ int64Min ≤ g.lowerEnd v :=
  ⟨fun hfits => hfits.1, fun hmin => ⟨hmin, Int.le_trans (g.isGreatest_lowerEnd v).1.2 h.2⟩⟩

theorem bucketFloor?_eq_none_iff (h : FitsInt64 v) :
    g.bucketFloor? v = none ↔ g.lowerEnd v < int64Min := by
  rw [← Int.not_le, ← fitsInt64_lowerEnd_iff h]
  exact ite_eq_right_iff.trans (by simp [lowerEnd])

/-! ## Labels -/

theorem label_eq_ok_iff_bucketFloor? :
    g.label raw = .ok label ↔ ∃ v m, (Denotes raw.toList v ∧ FitsInt64 v) ∧
      g.bucketFloor? v = some m ∧ String.ofList (decimal m) = label := by
  simp only [label_eq_ok_iff, Numeral.int64?_eq_some_iff, bucketFloor?_eq_some_iff]
  constructor
  · rintro ⟨v, hread, hfits, rfl⟩
    exact ⟨v, _, hread, ⟨hfits, rfl⟩, rfl⟩
  · rintro ⟨v, m, hread, ⟨hfits, rfl⟩, rfl⟩
    exact ⟨v, hread, hfits, rfl⟩

theorem bucketFloor?_of_label (h : g.label raw = .ok label) (hraw : Denotes raw.toList v) :
    ∃ m, g.bucketFloor? v = some m ∧ FitsInt64 m ∧ String.ofList (decimal m) = label := by
  obtain ⟨v', m, ⟨hread, -⟩, hfloor, rfl⟩ := label_eq_ok_iff_bucketFloor?.1 h
  obtain rfl := hraw.unique hread
  obtain ⟨hfits, rfl⟩ := bucketFloor?_eq_some_iff.1 hfloor
  exact ⟨_, hfloor, hfits, rfl⟩

/-- A label is read back as the lower end of the bucket. -/
theorem int64?_label (h : g.label raw = .ok label) (hraw : Denotes raw.toList v) :
    int64? label.toList = g.bucketFloor? v := by
  obtain ⟨m, hfloor, hfits, rfl⟩ := bucketFloor?_of_label h hraw
  rw [String.toList_ofList, Numeral.int64?_decimal hfits, hfloor]

/-- Labels are equal just where the buckets are. -/
theorem label_eq_iff (h : g.label raw = .ok label) (h' : g.label raw' = .ok label')
    (hraw : Denotes raw.toList v) (hraw' : Denotes raw'.toList v') :
    label = label' ↔ g.bucketFloor? v = g.bucketFloor? v' := by
  constructor
  · rintro rfl
    exact (int64?_label h hraw).symm.trans (int64?_label h' hraw')
  · intro hsame
    obtain ⟨m, hfloor, -, rfl⟩ := bucketFloor?_of_label h hraw
    obtain ⟨m', hfloor', -, rfl⟩ := bucketFloor?_of_label h' hraw'
    obtain rfl : m = m' := Option.some.inj (hfloor.symm.trans (hsame.trans hfloor'))
    rfl

/-- **Buckets of integers are exact** over the whole range of 64 bits. -/
theorem integer_buckets_are_exact (g : IntegerGranularity) :
    (∀ v, FitsInt64 v → floorQuotient? v g.width = some (v / g.width) ∧
      g.bucketFloor? v = fitted? (v / g.width * g.width) ∧
      ∃ m, IsGreatest {m | g.width ∣ m ∧ m ≤ v} m ∧
        (g.bucketFloor? v = none ↔ m < int64Min) ∧
        (int64Min ≤ m → g.bucketFloor? v = some m)) ∧
    (∀ v v' m m', v ≤ v' → g.bucketFloor? v = some m → g.bucketFloor? v' = some m' → m ≤ m') ∧
    (∀ raw, (∃ label, g.label raw = .ok label) ↔
      ∃ v m, (Denotes raw.toList v ∧ FitsInt64 v) ∧ g.bucketFloor? v = some m) ∧
    (∀ raw label v, g.label raw = .ok label → Denotes raw.toList v →
      ∃ m, g.bucketFloor? v = some m ∧ int64? label.toList = some m) ∧
    ∀ raw raw' label label' v v', g.label raw = .ok label → g.label raw' = .ok label' →
      Denotes raw.toList v → Denotes raw'.toList v' →
      (label = label' ↔ g.bucketFloor? v = g.bucketFloor? v') := by
  refine ⟨fun v hv => ⟨floorQuotient?_eq g hv, rfl, g.lowerEnd v, g.isGreatest_lowerEnd v,
    bucketFloor?_eq_none_iff hv, fun hmin => ?_⟩, ?_, fun raw => ⟨?_, ?_⟩, ?_, ?_⟩
  · exact bucketFloor?_eq_some_iff.2 ⟨(fitsInt64_lowerEnd_iff hv).2 hmin, rfl⟩
  · intro v v' m m' hle hm hm'
    rw [← (bucketFloor?_eq_some_iff.1 hm).2, ← (bucketFloor?_eq_some_iff.1 hm').2]
    exact g.lowerEnd_mono hle
  · rintro ⟨label, h⟩
    obtain ⟨v, m, hread, hfloor, -⟩ := label_eq_ok_iff_bucketFloor?.1 h
    exact ⟨v, m, hread, hfloor⟩
  · rintro ⟨v, m, hread, hfloor⟩
    exact ⟨_, label_eq_ok_iff_bucketFloor?.2 ⟨v, m, hread, hfloor, rfl⟩⟩
  · intro raw label v h hraw
    obtain ⟨m, hfloor, -⟩ := bucketFloor?_of_label h hraw
    exact ⟨m, hfloor, (int64?_label h hraw).trans hfloor⟩
  · exact fun _ _ _ _ _ _ h h' hraw hraw' => label_eq_iff h h' hraw hraw'

/-- In buckets of ten the least integer has a quotient but no bucket, the greatest has both, and two
texts of integers above forty have one label. -/
theorem integer_buckets_are_exact_at_the_ends :
    ∃ g : IntegerGranularity, g.width = 10 ∧
      floorQuotient? int64Min g.width = some (-922337203685477581) ∧
      g.bucketFloor? int64Min = none ∧
      floorQuotient? int64Max g.width = some 922337203685477580 ∧
      g.bucketFloor? int64Max = some 9223372036854775800 ∧
      g.label "+0047" = .ok "40" ∧ g.label "42" = .ok "40" ∧
      g.bucketFloor? 47 = g.bucketFloor? 42 := by
  let g : IntegerGranularity := ⟨10, by decide +kernel⟩
  obtain ⟨hfloor, -, -, -, hsame⟩ := integer_buckets_are_exact g
  obtain ⟨hleast, hnone, -⟩ := hfloor int64Min (by decide)
  obtain ⟨hgreatest, -, m, hm, -, hsome⟩ := hfloor int64Max (by decide)
  obtain rfl : m = 9223372036854775800 := hm.unique (g.isGreatest_lowerEnd int64Max)
  have hplus : g.label "+0047" = .ok "40" := by decide +kernel
  have hplain : g.label "42" = .ok "40" := by decide +kernel
  refine ⟨g, rfl, hleast, hnone, hgreatest, hsome (by decide), hplus, hplain, ?_⟩
  have hdenotes : Denotes "+0047".toList 47 ∧ Denotes "42".toList 42 := by
    rw [← Numeral.integer?_eq_some_iff, ← Numeral.integer?_eq_some_iff]
    decide +kernel
  exact (hsame _ _ _ _ _ _ hplus hplain hdenotes.1 hdenotes.2).1 rfl

end IntegerGranularity

end BucketDigest
