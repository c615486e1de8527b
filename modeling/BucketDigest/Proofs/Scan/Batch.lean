import BucketDigest.Proofs.Scan.Acceptance
import BucketDigest.Proofs.Scan.Digests

/-!
# Entries that are taken together

* `filled_addAll`: what a scan has after it has taken all of some entries.
* `addAll_eq_error_iff_split`: where the first entry is that is refused.
-/
namespace BucketDigest.Scan

variable {aggregations : List Aggregation} {algorithm : Algorithm} {history : List Entry}
  {s : Scan} {hashes : SortedMap Attributes RunningHash}

/-- What an entry that is taken does. -/
theorem add_cases {e : Entry} {s' : Scan} (h : s.add e = .ok s') :
    ∃ hashes key, s.buckets = .filling hashes ∧ s.checkOrder e = .ok () ∧
      bucketOf s.aggregations e.attributes = .ok key ∧ s' = s.extend hashes key e := by
  have hoffer := offer_eq s e
  rw [h] at hoffer
  rcases offer_cases s e with ⟨error, he⟩ | ⟨hashes, key, hb, ho, hk, he⟩
  · rw [he] at hoffer; cases hoffer
  · rw [he] at hoffer
    cases hoffer
    exact ⟨hashes, key, hb, ho, hk, rfl⟩

/-- A scan that has taken all of some entries holds the groups of all of them. -/
theorem filled_addAll {entries : List Entry} {s' : Scan}
    (h : Filled aggregations algorithm history s hashes) (hadd : s.addAll entries = .ok s') :
    ∃ hashes', Filled aggregations algorithm (history ++ entries) s' hashes' := by
  induction entries generalizing history s hashes with
  | nil =>
    cases hadd
    exact ⟨hashes, by rwa [List.append_nil]⟩
  | cons e rest ih =>
    rw [addAll_cons] at hadd
    cases he : s.add e with
    | error error => rw [he] at hadd; cases hadd
    | ok s₁ =>
      rw [he] at hadd
      obtain ⟨hashes₁, key, hb, -, hkey, rfl⟩ := add_cases he
      rw [h.buckets_eq] at hb
      cases hb
      rw [h.aggregations_eq] at hkey
      obtain ⟨hashes₂, h₂⟩ := h.extend hkey
      have hrest := ih h₂ hadd
      rwa [List.append_assoc, List.singleton_append] at hrest

/-- Entries are refused together as the first of them is that is refused. -/
theorem addAll_eq_error_iff_split {entries : List Entry} {error : ScanError} :
    s.addAll entries = .error error ↔
      ∃ before e after, entries = before ++ e :: after ∧
        ∃ s', s.addAll before = .ok s' ∧ s'.add e = .error error := by
  induction entries generalizing s with
  | nil =>
    refine ⟨nofun, ?_⟩
    intro hex
    obtain ⟨before, e, after, he, -⟩ := hex
    cases before <;> cases he
  | cons e rest ih =>
    rw [addAll_cons, exists_split_cons_iff]
    simp only [addAll_cons]
    cases hadd : s.add e with
    | error error' =>
      constructor
      · intro he
        cases he
        exact .inl ⟨s, rfl, hadd⟩
      · intro hor
        rcases hor with ⟨s', hs', he⟩ | ⟨before, x, after, -, s', hs', -⟩
        · cases hs'
          rw [hadd] at he
          exact he
        · cases hs'
    | ok s₁ =>
      rw [ih]
      constructor
      · exact .inr
      · intro hor
        rcases hor with ⟨s', hs', he⟩ | hrest
        · cases hs'
          rw [hadd] at he
          cases he
        · exact hrest

end BucketDigest.Scan
