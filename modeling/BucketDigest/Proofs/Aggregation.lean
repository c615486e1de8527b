import Mathlib.Order.Bounds.Basic
import Mathlib.Order.Fin.Basic
import BucketDigest.Aggregation

/-!
# Attributes that are aggregated twice

One pass over a list, with what has been seen kept beside it, answers a question about pairs of
positions.

* `duplicate?_eq_none_iff_not_clash`: nothing is found exactly where no two positions clash.
* `duplicate?_eq_some_iff`: what is found is the attribute at the first position that repeats an
  earlier one.
-/
namespace BucketDigest.Aggregation

/-! ## The search -/

theorem firstRepeated?_eq_none_iff (seen attrs : List String) :
    firstRepeated? seen attrs = none ↔ attrs.Nodup ∧ ∀ attr ∈ attrs, attr ∉ seen := by
  induction attrs generalizing seen with
  | nil => simp [firstRepeated?]
  | cons attr rest ih =>
    unfold firstRepeated?
    split
    · next hseen =>
      refine ⟨nofun, ?_⟩
      intro hboth
      obtain ⟨-, hnot⟩ := hboth
      exact absurd hseen (hnot attr (List.mem_cons_self ..))
    · next hseen =>
      rw [ih, List.nodup_cons, List.forall_mem_cons]
      constructor
      · intro hboth
        obtain ⟨hrest, hnot⟩ := hboth
        refine ⟨⟨fun hmem => hnot attr hmem (List.mem_cons_self ..), hrest⟩, hseen, ?_⟩
        exact fun b hb hs => hnot b hb (List.mem_cons_of_mem _ hs)
      · intro hboth
        obtain ⟨⟨hmem, hrest⟩, -, hnot⟩ := hboth
        refine ⟨hrest, fun b hb hs => ?_⟩
        rcases List.mem_cons.1 hs with rfl | hs
        · exact hmem hb
        · exact hnot b hb hs

/-- What is found stands at a position up to which nothing is found, and has been seen before. -/
theorem firstRepeated?_eq_some_iff {seen attrs : List String} {attr : String} :
    firstRepeated? seen attrs = some attr ↔
      ∃ i, attrs[i]? = some attr ∧ (attr ∈ seen ∨ attr ∈ attrs.take i) ∧
        firstRepeated? seen (attrs.take i) = none := by
  induction attrs generalizing seen with
  | nil => simp [firstRepeated?]
  | cons a rest ih =>
    rw [← Nat.or_exists_add_one]
    simp only [List.getElem?_cons_zero, List.getElem?_cons_succ, List.take_zero,
      List.take_succ_cons, List.mem_cons]
    by_cases ha : a ∈ seen
    · -- The search ends here: every later position has `a` before it.
      have hzero : a = attr → attr ∈ seen := fun h => h ▸ ha
      simpa [firstRepeated?, ha] using hzero
    · -- The search goes on with `a` among what has been seen, and positions count from there.
      have hzero : ¬ (a = attr ∧ attr ∈ seen) := fun h => ha (h.1 ▸ h.2)
      simp [firstRepeated?, ha, ih, hzero, or_assoc, or_left_comm]

/-- No duplicate is found exactly where there is none. -/
theorem duplicate?_eq_none_iff (aggregations : List Aggregation) :
    duplicate? aggregations = none ↔ (aggregations.map Aggregation.attr).Nodup := by
  unfold duplicate?
  rw [firstRepeated?_eq_none_iff]
  simp

/-! ## Positions -/

/-- Aggregations at two different positions govern the same attribute. -/
def Clash (aggregations : List Aggregation) : Prop :=
  ∃ i j : Fin aggregations.length, i ≠ j ∧ (aggregations.get i).attr = (aggregations.get j).attr

/-- The attribute at a position is governed at an earlier position too. -/
def RepeatsAt (aggregations : List Aggregation) (i : Fin aggregations.length) : Prop :=
  ∃ j < i, (aggregations.get j).attr = (aggregations.get i).attr

variable {aggregations : List Aggregation}

/-- Of two positions that clash, the later one repeats the earlier one. -/
theorem clash_iff_exists_repeatsAt : Clash aggregations ↔ ∃ i, RepeatsAt aggregations i := by
  constructor
  · rintro ⟨i, j, hne, hattr⟩
    rcases lt_or_gt_of_ne hne with hlt | hgt
    · exact ⟨j, i, hlt, hattr⟩
    · exact ⟨i, j, hgt, hattr.symm⟩
  · rintro ⟨i, j, hlt, hattr⟩
    exact ⟨j, i, hlt.ne, hattr⟩

theorem repeatsAt_iff_mem_take (i : Fin aggregations.length) :
    RepeatsAt aggregations i ↔
      (aggregations.get i).attr ∈ (aggregations.take i).map Aggregation.attr := by
  constructor
  · rintro ⟨j, hlt, hattr⟩
    rw [← hattr]
    exact List.mem_map_of_mem (List.mem_take_iff_getElem.2 ⟨j, Nat.lt_min.2 ⟨hlt, j.isLt⟩, rfl⟩)
  · intro hmem
    obtain ⟨a, ha, hattr⟩ := List.mem_map.1 hmem
    obtain ⟨j, hj, rfl⟩ := List.mem_take_iff_getElem.1 ha
    obtain ⟨hlt, hlength⟩ := Nat.lt_min.1 hj
    exact ⟨⟨j, hlength⟩, hlt, hattr⟩

/-- The attributes in front of a position differ if and only if none of them is a repetition. -/
theorem nodup_take_iff (n : Nat) :
    ((aggregations.take n).map Aggregation.attr).Nodup ↔
      ∀ i : Fin aggregations.length, i.val < n → ¬ RepeatsAt aggregations i := by
  rw [List.Nodup, List.pairwise_map, List.pairwise_iff_getElem]
  simp only [List.getElem_take, List.length_take, Nat.lt_min]
  constructor
  · rintro hne i hi ⟨j, hlt, hattr⟩
    exact hne j i ⟨Nat.lt_trans hlt hi, j.isLt⟩ ⟨hi, i.isLt⟩ hlt hattr
  · intro hnot j i hj hi hlt hattr
    exact hnot ⟨i, hi.2⟩ hi.1 ⟨⟨j, hj.2⟩, hlt, hattr⟩

theorem duplicate?_eq_none_iff_not_clash :
    duplicate? aggregations = none ↔ ¬ Clash aggregations := by
  have hnodup := @nodup_take_iff aggregations aggregations.length
  rw [List.take_length] at hnodup
  rw [duplicate?_eq_none_iff, hnodup, clash_iff_exists_repeatsAt, not_exists]
  exact forall_congr' fun i => forall_prop_of_true i.isLt

/-- The first repetition is one behind attributes that all differ. -/
theorem isLeast_repeatsAt_iff (i : Fin aggregations.length) :
    IsLeast {i | RepeatsAt aggregations i} i ↔
      (aggregations.get i).attr ∈ (aggregations.take i).map Aggregation.attr ∧
        ((aggregations.take i).map Aggregation.attr).Nodup := by
  rw [← repeatsAt_iff_mem_take, nodup_take_iff]
  refine and_congr_right fun _ => forall_congr' fun k => ?_
  exact (imp_congr_right fun _ => not_lt.symm).trans imp_not_comm

/-- The search stops at the first position that repeats an earlier one. -/
theorem duplicate?_eq_some_iff {attr : String} :
    duplicate? aggregations = some attr ↔
      ∃ i, IsLeast {i | RepeatsAt aggregations i} i ∧ (aggregations.get i).attr = attr := by
  unfold duplicate?
  rw [firstRepeated?_eq_some_iff]
  simp only [isLeast_repeatsAt_iff, ← List.map_take, firstRepeated?_eq_none_iff, List.not_mem_nil,
    false_or, not_false_eq_true, implies_true, and_true]
  constructor
  · rintro ⟨i, hi, hmem, hnodup⟩
    obtain ⟨hlt, hattr⟩ := List.getElem?_eq_some_iff.1 hi
    rw [List.getElem_map] at hattr
    rw [List.length_map] at hlt
    exact ⟨⟨i, hlt⟩, ⟨hattr ▸ hmem, hnodup⟩, hattr⟩
  · rintro ⟨i, ⟨hmem, hnodup⟩, rfl⟩
    exact ⟨i, by simp, hmem, hnodup⟩

end BucketDigest.Aggregation
