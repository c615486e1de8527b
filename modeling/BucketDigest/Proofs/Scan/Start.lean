import BucketDigest.Collation.Weights
import BucketDigest.Proofs.Scan.History

/-!
# Setting up a scan

A bucket has one label for each attribute, so no attribute may have two aggregations. Main
statement: `first_repeated_attribute_is_named`, a scan is refused exactly where one has, and the
refusal names the attribute that is the first to come up again; otherwise the scan is open and empty
and keeps its aggregations in the order in which they were given.
-/
namespace BucketDigest.Scan

open Aggregation (Clash RepeatsAt)

variable {aggregations : List Aggregation} {collation : Collation} {algorithm : Algorithm}

/-- A start with the given aggregations fails for a repeated attribute, names the first one, and
otherwise gives a scan that has seen nothing. -/
structure ExactStart (aggregations : List Aggregation) (collation : Collation)
    (algorithm : Algorithm) (outcome : Except SetupError Scan) : Prop where
  fails_iff : (∃ error, outcome = .error error) ↔ Clash aggregations
  eq_error_iff (error : SetupError) : outcome = .error error ↔
    ∃ i, IsLeast {i | RepeatsAt aggregations i} i ∧
      error = .duplicateAggregation (aggregations.get i).attr
  eq_ok_iff (s : Scan) : outcome = .ok s ↔
    ¬ Clash aggregations ∧ s = ⟨aggregations, collation, algorithm, none, 0, .filling .empty⟩

/-- Nothing but the search for a repeated attribute decides on a start. -/
theorem exactStart_of_duplicate? {outcome : Except SetupError Scan}
    (h : outcome =
      match Aggregation.duplicate? aggregations with
      | some attr => .error (.duplicateAggregation attr)
      | none => .ok ⟨aggregations, collation, algorithm, none, 0, .filling .empty⟩) :
    ExactStart aggregations collation algorithm outcome := by
  subst h
  cases hfound : Aggregation.duplicate? aggregations with
  | none =>
    have hclash := Aggregation.duplicate?_eq_none_iff_not_clash.1 hfound
    have hleast : ∀ i, ¬ IsLeast {i | RepeatsAt aggregations i} i := fun i hi =>
      hclash (Aggregation.clash_iff_exists_repeatsAt.2 ⟨i, hi.1⟩)
    exact ⟨by simp [hclash], by simp [hleast], by simp [hclash, eq_comm]⟩
  | some attr =>
    obtain ⟨i, hi, rfl⟩ := Aggregation.duplicate?_eq_some_iff.1 hfound
    have hclash := Aggregation.clash_iff_exists_repeatsAt.2 ⟨i, hi.1⟩
    refine ⟨by simp [hclash], fun error => ?_, by simp [hclash]⟩
    constructor
    · intro h
      cases h
      exact ⟨i, hi, rfl⟩
    · rintro ⟨k, hk, rfl⟩
      rw [hk.unique hi]

/-- Once the order of the ids is at hand, settings add no failure of their own. -/
theorem ofSettings_eq_match {settings : Settings} {collator : Collator}
    (h : settings.collation.build collator = .ok collation) :
    ofSettings collator aggregations settings =
      match Aggregation.duplicate? aggregations with
      | some attr => .error (.duplicateAggregation attr)
      | none => .ok ⟨aggregations, collation, settings.algorithm, none, 0, .filling .empty⟩ := by
  unfold ofSettings start
  rw [h]
  cases Aggregation.duplicate? aggregations <;> rfl

/-- **Repeated attributes.** Setting up a scan fails, in any order of ids and by any settings whose
order can be had, if and only if aggregations at two different positions govern the same attribute.
The error then names the attribute at the smallest position that repeats an earlier one, however
many are repeated. Otherwise the scan is open and empty, with the list of aggregations as it was
given. -/
theorem first_repeated_attribute_is_named (aggregations : List Aggregation) :
    (∀ collation, ExactStart aggregations collation .md5 (start aggregations collation)) ∧
    ∀ (settings : Settings) (collator : Collator) (collation : Collation),
      settings.collation.build collator = .ok collation →
        ExactStart aggregations collation settings.algorithm
          (ofSettings collator aggregations settings) :=
  ⟨fun _ => exactStart_of_duplicate? rfl,
    fun _ _ _ h => exactStart_of_duplicate? (ofSettings_eq_match h)⟩

/-- The attribute that is named need not be the one that stands first: here the second one comes up
again before the first does. -/
theorem first_repeated_attribute_is_named_before_first :
    let aggregations : List Aggregation :=
      [⟨"date", .date .daily, none⟩, ⟨"kind", .byName, none⟩, ⟨"kind", .byName, some "p"⟩,
        ⟨"date", .date .monthly, none⟩]
    let settings : Settings := ⟨.unicode, .blake3⟩
    let collator : Collator := .ok Collation.byWeights
    settings.collation.build collator = .ok (.unicode Collation.byWeights) ∧
      ofSettings collator aggregations settings = .error (.duplicateAggregation "kind") ∧
      IsLeast {i | RepeatsAt aggregations i} ⟨2, by decide⟩ := by
  intro aggregations settings collator
  have hbuild : settings.collation.build collator = .ok (.unicode Collation.byWeights) := rfl
  have hstart := (first_repeated_attribute_is_named aggregations).2 settings collator _ hbuild
  have hleast : IsLeast {i | RepeatsAt aggregations i} ⟨2, by decide⟩ :=
    (Aggregation.isLeast_repeatsAt_iff _).2 ⟨by decide, by decide⟩
  exact ⟨hbuild, (hstart.eq_error_iff _).2 ⟨_, hleast, rfl⟩, hleast⟩

end BucketDigest.Scan
