import BucketDigest.Proofs.SortedMap
import BucketDigest.Proofs.Traversal
import BucketDigest.Scan

/-!
# The bucket of some attributes

`bucketOf` goes through the aggregations one by one and replaces a value at a time.

* `bucketOf_eq_ok_iff`: what it gives is the attributes with labels in place of the aggregated
  values (`IsBucket`), and nothing else has that form.
* `exists_bucketOf_iff`: it gives a bucket if and only if every aggregation gives a label.
* `bucketOf_eq_error_iff`: otherwise it fails as the first aggregation without a label does.
-/
namespace BucketDigest

/-- An aggregation finds its attribute and gives a label to the value. -/
def Aggregation.Gives (a : Aggregation) (attributes : Attributes) (label : String) : Prop :=
  ∃ raw, attributes.get? a.attr = some raw ∧ a.rule.label raw = .ok label

/-- An aggregation does not find its attribute, or gives no label to the value. -/
inductive Aggregation.Refuses (a : Aggregation) (attributes : Attributes) : ScanError → Prop
  | missing (h : attributes.get? a.attr = none) : a.Refuses attributes (.missingAttribute a.attr)
  | malformed {raw : String} {reason : LabelError} (h : attributes.get? a.attr = some raw)
      (hlabel : a.rule.label raw = .error reason) :
      a.Refuses attributes (.malformedValue a.attr raw reason)

/-- Labels in place of the values that are aggregated; every other value as it was. -/
structure IsBucket (aggregations : List Aggregation) (attributes key : Attributes) : Prop where
  labelled : ∀ a ∈ aggregations, ∃ label, a.Gives attributes label ∧ key.get? a.attr = some label
  kept : ∀ attr, (∀ a ∈ aggregations, a.attr ≠ attr) → key.get? attr = attributes.get? attr

namespace Aggregation

variable {a : Aggregation} {attributes : Attributes}

theorem labelOf_eq_ok_iff {label : String} :
    a.labelOf attributes = .ok label ↔ a.Gives attributes label := by
  unfold labelOf Gives
  cases hget : attributes.get? a.attr with
  | none => simp
  | some raw =>
    unfold Aggregation.label
    cases hlabel : a.rule.label raw <;> simp [hlabel]

theorem labelOf_eq_error_iff {error : ScanError} :
    a.labelOf attributes = .error error ↔ a.Refuses attributes error := by
  constructor
  · intro h
    unfold labelOf at h
    split at h
    · next hget => cases h; exact .missing hget
    · next raw hget =>
      unfold Aggregation.label at h
      split at h
      · cases h
      · next reason hlabel => cases h; exact .malformed hget hlabel
  · intro hor
    rcases hor with hget | ⟨hget, hlabel⟩
    · simp only [labelOf, hget]
    · simp only [labelOf, hget, Aggregation.label, hlabel]

theorem Gives.unique {label label' : String} (h : a.Gives attributes label)
    (h' : a.Gives attributes label') : label = label' := by
  rw [← labelOf_eq_ok_iff] at h h'
  exact Except.ok.inj (h.symm.trans h')

end Aggregation

/-! ## Going through the aggregations -/

/-- `bucketOf` from some point on, with the labels so far already in `key`. -/
def bucketFrom (attributes key : Attributes) (aggregations : List Aggregation) :
    Except ScanError Attributes :=
  aggregations.foldlM
    (fun key a => (a.labelOf attributes).map fun label => key.insert a.attr label) key

theorem bucketFrom_cons_ok {attributes key : Attributes} {a : Aggregation} {label : String}
    (h : a.labelOf attributes = .ok label) (rest : List Aggregation) :
    bucketFrom attributes key (a :: rest) =
      bucketFrom attributes (key.insert a.attr label) rest := by
  unfold bucketFrom
  rw [List.foldlM_cons, h]
  rfl

theorem bucketFrom_cons_error {attributes key : Attributes} {a : Aggregation} {error : ScanError}
    (h : a.labelOf attributes = .error error) (rest : List Aggregation) :
    bucketFrom attributes key (a :: rest) = .error error := by
  unfold bucketFrom
  rw [List.foldlM_cons, h]
  rfl

theorem bucketFrom_eq_ok_iff {attributes : Attributes} {aggregations : List Aggregation}
    (hd : (aggregations.map Aggregation.attr).Nodup) {key₀ key : Attributes} :
    bucketFrom attributes key₀ aggregations = .ok key ↔
      (∀ a ∈ aggregations, ∃ label, a.Gives attributes label ∧ key.get? a.attr = some label) ∧
      ∀ attr, (∀ a ∈ aggregations, a.attr ≠ attr) → key.get? attr = key₀.get? attr := by
  induction aggregations generalizing key₀ with
  | nil =>
    constructor
    · intro h; cases h; exact ⟨by simp, fun _ _ => rfl⟩
    · intro hboth
      obtain ⟨-, h⟩ := hboth
      exact congrArg Except.ok (SortedMap.ext_get? fun attr => (h attr (by simp)).symm)
  | cons a rest ih =>
    obtain ⟨hnot, hrest⟩ := List.nodup_cons.1 hd
    have hne : ∀ b ∈ rest, b.attr ≠ a.attr := fun b hb he =>
      hnot (he ▸ List.mem_map_of_mem hb)
    cases hl : a.labelOf attributes with
    | error error =>
      rw [bucketFrom_cons_error hl]
      refine ⟨nofun, ?_⟩
      intro hboth
      obtain ⟨h, -⟩ := hboth
      obtain ⟨label, hgives, -⟩ := h a (List.mem_cons_self ..)
      rw [← Aggregation.labelOf_eq_ok_iff, hl] at hgives
      cases hgives
    | ok label =>
      have hgives := Aggregation.labelOf_eq_ok_iff.1 hl
      rw [bucketFrom_cons_ok hl, ih hrest]
      constructor
      · intro hboth
        obtain ⟨h, hkept⟩ := hboth
        refine ⟨?_, fun attr hattr => ?_⟩
        · intro b hb
          rcases List.mem_cons.1 hb with rfl | hb
          · exact ⟨label, hgives, by rw [hkept b.attr hne, SortedMap.get?_insert_self]⟩
          · exact h b hb
        · rw [hkept attr fun b hb => hattr b (List.mem_cons_of_mem _ hb),
            SortedMap.get?_insert_of_ne _ (hattr a (List.mem_cons_self ..)).symm]
      · intro hboth
        obtain ⟨h, hkept⟩ := hboth
        refine ⟨fun b hb => h b (List.mem_cons_of_mem _ hb), fun attr hattr => ?_⟩
        by_cases he : attr = a.attr
        · subst he
          obtain ⟨label', hgives', hkey⟩ := h a (List.mem_cons_self ..)
          rw [hkey, hgives'.unique hgives, SortedMap.get?_insert_self]
        · rw [SortedMap.get?_insert_of_ne _ he]
          refine hkept attr fun b hb => ?_
          rcases List.mem_cons.1 hb with rfl | hb
          · exact Ne.symm he
          · exact hattr b hb

theorem bucketFrom_eq_error_iff {attributes key : Attributes} {aggregations : List Aggregation}
    {error : ScanError} :
    bucketFrom attributes key aggregations = .error error ↔
      ∃ before a after, aggregations = before ++ a :: after ∧
        (∀ b ∈ before, ∃ label, b.Gives attributes label) ∧ a.Refuses attributes error := by
  induction aggregations generalizing key with
  | nil => exact ⟨nofun, fun ⟨before, a, after, h, _⟩ => by cases before <;> cases h⟩
  | cons a rest ih =>
    rw [exists_split_cons_iff, ← Aggregation.labelOf_eq_error_iff]
    simp only [List.forall_mem_cons, ← Aggregation.labelOf_eq_ok_iff] at ih ⊢
    cases hl : a.labelOf attributes with
    | error error' =>
      rw [bucketFrom_cons_error hl]
      constructor
      · intro h
        cases h
        exact .inl ⟨by simp, rfl⟩
      · intro hor
        rcases hor with ⟨-, h⟩ | ⟨before, b, after, -, ⟨⟨label, h⟩, -⟩, -⟩
        · cases h; rfl
        · cases h
    | ok label =>
      rw [bucketFrom_cons_ok hl, ih]
      constructor
      · intro hex
        obtain ⟨before, b, after, hsplit, hbefore, hb⟩ := hex
        exact .inr ⟨before, b, after, hsplit, ⟨⟨label, rfl⟩, hbefore⟩, hb⟩
      · intro hor
        rcases hor with ⟨-, h⟩ | ⟨before, b, after, hsplit, ⟨-, hbefore⟩, hb⟩
        · cases h
        · exact ⟨before, b, after, hsplit, hbefore, hb⟩

theorem exists_bucketFrom_iff {attributes key : Attributes} {aggregations : List Aggregation} :
    (∃ key', bucketFrom attributes key aggregations = .ok key') ↔
      ∀ a ∈ aggregations, ∃ label, a.Gives attributes label := by
  induction aggregations generalizing key with
  | nil => exact ⟨fun _ => by simp, fun _ => ⟨key, rfl⟩⟩
  | cons a rest ih =>
    rw [List.forall_mem_cons]
    cases hl : a.labelOf attributes with
    | error error =>
      rw [bucketFrom_cons_error hl]
      refine ⟨nofun, ?_⟩
      intro hboth
      obtain ⟨⟨label, hgives⟩, -⟩ := hboth
      rw [← Aggregation.labelOf_eq_ok_iff, hl] at hgives
      cases hgives
    | ok label =>
      rw [bucketFrom_cons_ok hl, ih]
      exact ⟨fun h => ⟨⟨label, Aggregation.labelOf_eq_ok_iff.1 hl⟩, h⟩, fun h => h.2⟩

/-! ## Buckets -/

theorem bucketOf_eq_bucketFrom (aggregations : List Aggregation) (attributes : Attributes) :
    bucketOf aggregations attributes = bucketFrom attributes attributes aggregations := rfl

/-- Where no attribute is aggregated twice, `bucketOf` gives the one map that has labels in place
of the aggregated values. -/
theorem bucketOf_eq_ok_iff {aggregations : List Aggregation}
    (hd : (aggregations.map Aggregation.attr).Nodup) {attributes key : Attributes} :
    bucketOf aggregations attributes = .ok key ↔ IsBucket aggregations attributes key := by
  rw [bucketOf_eq_bucketFrom, bucketFrom_eq_ok_iff hd]
  exact ⟨fun h => ⟨h.1, h.2⟩, fun h => ⟨h.labelled, h.kept⟩⟩

/-- The error is that of the first aggregation that gives no label. -/
theorem bucketOf_eq_error_iff {aggregations : List Aggregation} {attributes : Attributes}
    {error : ScanError} :
    bucketOf aggregations attributes = .error error ↔
      ∃ before a after, aggregations = before ++ a :: after ∧
        (∀ b ∈ before, ∃ label, b.Gives attributes label) ∧ a.Refuses attributes error :=
  bucketFrom_eq_error_iff

theorem exists_bucketOf_iff {aggregations : List Aggregation} {attributes : Attributes} :
    (∃ key, bucketOf aggregations attributes = .ok key) ↔
      ∀ a ∈ aggregations, ∃ label, a.Gives attributes label :=
  exists_bucketFrom_iff

end BucketDigest
