import BucketDigest.Proofs.Aggregation
import BucketDigest.Proofs.Scan.Run

/-!
# What a scan keeps of its history

The history of a run is the list of the entries that it has taken. A scan keeps no more of it than
the last id, a count and the hashes of the buckets. `recorded_run` is about the first two.
-/
namespace BucketDigest

/-- The id of the last entry that has one. -/
def lastId? (history : List Entry) : Option String :=
  (history.filterMap Entry.id).getLast?

theorem filterMap_id_append (history : List Entry) (e : Entry) :
    (history ++ [e]).filterMap Entry.id = history.filterMap Entry.id ++ e.id.toList := by
  rw [List.filterMap_append]
  cases hid : e.id <;> simp [List.filterMap, hid]

theorem lastId?_append (history : List Entry) (e : Entry) :
    lastId? (history ++ [e]) = e.id.or (lastId? history) := by
  unfold lastId?
  rw [filterMap_id_append]
  cases e.id <;> simp

namespace Scan

/-- A scan with these aggregations and this order of ids has taken the entries of `history`. -/
structure Recorded (aggregations : List Aggregation) (collation : Collation)
    (history : List Entry) (s : Scan) : Prop where
  aggregations_eq : s.aggregations = aggregations
  collation_eq : s.collation = collation
  lastId_eq : s.lastId = lastId? history
  entryCount_eq : s.entryCount = history.length

variable {aggregations : List Aggregation} {collation : Collation} {history : List Entry} {s : Scan}

theorem start_eq_ok_iff :
    start aggregations collation = .ok s ↔
      Aggregation.duplicate? aggregations = none ∧
        s = ⟨aggregations, collation, .md5, none, 0, .filling .empty⟩ := by
  unfold start
  cases Aggregation.duplicate? aggregations with
  | some attr => simp
  | none => simp [eq_comm]

/-- Nothing else can be wrong with a start than an attribute with two aggregations. -/
theorem start_of_nodup (h : (aggregations.map Aggregation.attr).Nodup) (collation : Collation) :
    start aggregations collation =
      .ok ⟨aggregations, collation, .md5, none, 0, .filling .empty⟩ :=
  start_eq_ok_iff.2 ⟨(Aggregation.duplicate?_eq_none_iff _).2 h, rfl⟩

theorem recorded_start (h : start aggregations collation = .ok s) :
    Recorded aggregations collation [] s := by
  obtain ⟨-, rfl⟩ := start_eq_ok_iff.1 h
  exact ⟨rfl, rfl, rfl, rfl⟩

theorem Recorded.withAlgorithm (h : Recorded aggregations collation history s)
    (algorithm : Algorithm) : Recorded aggregations collation history (s.withAlgorithm algorithm) :=
  ⟨h.aggregations_eq, h.collation_eq, h.lastId_eq, h.entryCount_eq⟩

theorem Recorded.extend (h : Recorded aggregations collation history s)
    (hashes : SortedMap Attributes RunningHash) (key : Attributes) (e : Entry) :
    Recorded aggregations collation (history ++ [e]) (s.extend hashes key e) := by
  refine ⟨h.aggregations_eq, h.collation_eq, ?_, ?_⟩
  · rw [lastId?_append, ← h.lastId_eq]; rfl
  · rw [List.length_append, ← h.entryCount_eq]; rfl

theorem recorded_run (h : Recorded aggregations collation history s) (calls : List Call) :
    Recorded aggregations collation (history ++ taken (s.run calls).2) (s.run calls).1 := by
  refine run_preserves (fun history s call _ h => ?_) h
  exact step_preserves h (fun hashes key e _ _ _ => h.extend hashes key e)
    (fun algorithm => h.withAlgorithm algorithm)
    ⟨h.aggregations_eq, h.collation_eq, h.lastId_eq, h.entryCount_eq⟩ call

end Scan

end BucketDigest
