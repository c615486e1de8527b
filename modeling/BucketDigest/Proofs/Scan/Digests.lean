import Mathlib.Data.List.Dedup
import BucketDigest.Proofs.Aggregation
import BucketDigest.Proofs.Hash.Running
import BucketDigest.Proofs.Scan.BucketKey
import BucketDigest.Proofs.Scan.History
import BucketDigest.Proofs.Scan.Sealing
import BucketDigest.Proofs.Text.OctetOrder

/-!
# What the digests are

A scan keeps one running hash for each bucket. The reference is the history of the run: the entries
taken so far, of which `members` are those of one bucket and `versionOctets` their versions put
together. `Filled` is the invariant that relates the two; an entry that is taken extends the members
of its own bucket and of no other.

Main statement: `digests_group_history`, the digests are the one-shot digests of the groups of the
history.
-/
namespace BucketDigest

/-! ## The order of the labels -/

namespace Attributes

/-- Compares two pairs by the octets of their names and then by those of their values. -/
def comparePairOctets (x y : String × String) : Ordering :=
  (Text.compareOctets (Text.bytes x.1) (Text.bytes y.1)).then
    (Text.compareOctets (Text.bytes x.2) (Text.bytes y.2))

/-- Compares two maps by the octets of their pairs, from the first on. -/
def compareOctets (a b : Attributes) : Ordering :=
  List.compareLex comparePairOctets a.entries b.entries

theorem compare_eq_octets (a b : Attributes) : compare a b = a.compareOctets b := by
  have hpair : comparePair = comparePairOctets := by
    funext x y
    rw [comparePair, Text.compare_eq_octets, Text.compare_eq_octets]
    rfl
  show order a b = _
  rw [order, hpair]
  rfl

end Attributes

/-! ## The groups of a history -/

/-- The entries of a history that belong in a bucket, in order of arrival. -/
def members (aggregations : List Aggregation) (history : List Entry) (key : Attributes) :
    List Entry :=
  history.filter fun e => bucketOf aggregations e.attributes = .ok key

/-- The octets of the versions of some entries, with nothing between them. -/
def versionOctets (entries : List Entry) : List UInt8 :=
  entries.flatMap fun e => Text.bytes e.version

theorem members_append_self {aggregations : List Aggregation} {history : List Entry} {e : Entry}
    {key : Attributes} (h : bucketOf aggregations e.attributes = .ok key) :
    members aggregations (history ++ [e]) key = members aggregations history key ++ [e] := by
  simp [members, h]

theorem members_append_of_ne {aggregations : List Aggregation} {history : List Entry} {e : Entry}
    {key key' : Attributes} (h : bucketOf aggregations e.attributes = .ok key) (hne : key' ≠ key) :
    members aggregations (history ++ [e]) key' = members aggregations history key' := by
  simp [members, h, Ne.symm hne]

/-- The buckets that the entries of a history belong in, each once. -/
def bucketsOf (aggregations : List Aggregation) (history : List Entry) : List Attributes :=
  (history.filterMap fun e => (bucketOf aggregations e.attributes).toOption).dedup

theorem nodup_bucketsOf (aggregations : List Aggregation) (history : List Entry) :
    (bucketsOf aggregations history).Nodup := List.nodup_dedup _

theorem mem_bucketsOf_iff {aggregations : List Aggregation} {history : List Entry}
    {key : Attributes} :
    key ∈ bucketsOf aggregations history ↔
      ∃ e ∈ history, bucketOf aggregations e.attributes = .ok key := by
  have htoOption : ∀ result : Except ScanError Attributes,
      result.toOption = some key ↔ result = .ok key := by
    intro result
    cases result <;> simp [Except.toOption]
  simp only [bucketsOf, List.mem_dedup, List.mem_filterMap, htoOption]

theorem members_ne_nil_iff {aggregations : List Aggregation} {history : List Entry}
    {key : Attributes} :
    members aggregations history key ≠ [] ↔ key ∈ bucketsOf aggregations history := by
  rw [mem_bucketsOf_iff]
  simp [members]

/-- The aggregate of a bucket: the digest of its members' versions as a whole, with its labels. -/
def digestOf (aggregations : List Aggregation) (algorithm : Algorithm) (history : List Entry)
    (key : Attributes) : Entry where
  id := none
  version := algorithm.hexDigest (versionOctets (members aggregations history key))
  lastUpdated := none
  attributes := key

/-- The running hash of a bucket with these members; there is none for a bucket without members. -/
def bucketHash (algorithm : Algorithm) (entries : List Entry) : Option RunningHash :=
  if entries = [] then none
  else some ((RunningHash.start algorithm).feed (versionOctets entries))

theorem bucketHash_eq_some_iff {algorithm : Algorithm} {entries : List Entry}
    {hash : RunningHash} :
    bucketHash algorithm entries = some hash ↔
      entries ≠ [] ∧ (RunningHash.start algorithm).feed (versionOctets entries) = hash := by
  unfold bucketHash
  split
  · next h => simp [h]
  · next h => simp [h]

theorem bucketHash_append (algorithm : Algorithm) (entries : List Entry) (e : Entry) :
    some (((bucketHash algorithm entries).getD (.start algorithm)).feed (Text.bytes e.version)) =
      bucketHash algorithm (entries ++ [e]) := by
  have hne : entries ++ [e] ≠ [] := List.append_ne_nil_of_right_ne_nil _ (List.cons_ne_nil _ _)
  unfold bucketHash versionOctets
  rw [if_neg hne, List.flatMap_append, RunningHash.feed_append, List.flatMap_singleton]
  split
  · next h => subst h; cases algorithm <;> rfl
  · rfl

namespace Scan

/-- The buckets hold the hashes of the groups of the history. -/
structure Filled (aggregations : List Aggregation) (algorithm : Algorithm) (history : List Entry)
    (s : Scan) (hashes : SortedMap Attributes RunningHash) : Prop where
  aggregations_eq : s.aggregations = aggregations
  algorithm_eq : s.algorithm = algorithm
  buckets_eq : s.buckets = .filling hashes
  get?_eq : ∀ key, hashes.get? key = bucketHash algorithm (members aggregations history key)
  labelled : ∀ e ∈ history, ∃ key, bucketOf aggregations e.attributes = .ok key

variable {aggregations : List Aggregation} {algorithm : Algorithm} {history : List Entry}
  {s : Scan} {hashes : SortedMap Attributes RunningHash}

/-- An entry that is taken extends its own bucket and leaves every other as it is. -/
theorem Filled.extend (h : Filled aggregations algorithm history s hashes) {e : Entry}
    {key : Attributes} (hkey : bucketOf aggregations e.attributes = .ok key) :
    ∃ hashes', Filled aggregations algorithm (history ++ [e]) (s.extend hashes key e) hashes' := by
  refine ⟨_, h.aggregations_eq, h.algorithm_eq, rfl, fun key' => ?_, fun x hx => ?_⟩
  · rw [h.algorithm_eq]
    by_cases hk : key' = key
    · subst hk
      rw [SortedMap.get?_upsert_self, h.get?_eq, members_append_self hkey]
      exact bucketHash_append algorithm _ e
    · rw [SortedMap.get?_upsert_of_ne _ hk, h.get?_eq, members_append_of_ne hkey hk]
  · rcases List.mem_append.1 hx with hx | hx
    · exact h.labelled x hx
    · rw [List.mem_singleton.1 hx]; exact ⟨key, hkey⟩

theorem filled_start {collation : Collation} (h : start aggregations collation = .ok s)
    (algorithm : Algorithm) :
    Filled aggregations algorithm [] (s.withAlgorithm algorithm) .empty := by
  obtain ⟨-, rfl⟩ := start_eq_ok_iff.1 h
  exact ⟨rfl, rfl, rfl, fun _ => rfl, nofun⟩

theorem filled_run (h : Filled aggregations algorithm history s hashes) (entries : List Entry) :
    ∃ hashes', Filled aggregations algorithm
      (history ++ taken (s.run (entries.map Call.add)).2) (s.run (entries.map Call.add)).1
      hashes' := by
  let P (history : List Entry) (s : Scan) : Prop :=
    ∃ hashes, Filled aggregations algorithm history s hashes
  refine run_preserves (P := P) (fun history s call hcall h => ?_) ⟨hashes, h⟩
  -- Another choice of the hash function on the way would break the invariant.
  obtain ⟨e, -, rfl⟩ := List.mem_map.1 hcall
  refine step_add_preserves (P := P) h fun hashes' key hb _ hkey => ?_
  obtain ⟨hashes, h⟩ := h
  rw [h.buckets_eq] at hb
  cases hb
  rw [h.aggregations_eq] at hkey
  exact h.extend hkey

/-! ## The digests of a run -/

/-- The keys under which hashes are kept are the buckets of the history. -/
theorem Filled.keys_perm (h : Filled aggregations algorithm history s hashes) :
    (hashes.entries.map Prod.fst).Perm (bucketsOf aggregations history) := by
  refine (List.perm_ext_iff_of_nodup hashes.nodup_keys (nodup_bucketsOf ..)).2 fun key => ?_
  rw [← members_ne_nil_iff, List.mem_map]
  constructor
  · intro hex
    obtain ⟨⟨key, hash⟩, hmem, rfl⟩ := hex
    rw [SortedMap.mem_entries_iff, h.get?_eq, bucketHash_eq_some_iff] at hmem
    exact hmem.1
  · intro hne
    have hget := (h.get?_eq key).trans (bucketHash_eq_some_iff.2 ⟨hne, rfl⟩)
    exact ⟨_, (SortedMap.mem_entries_iff ..).2 hget, rfl⟩

theorem Filled.digests_eq (h : Filled aggregations algorithm history s hashes) :
    s.digests =
      (hashes.entries.map Prod.fst).map (digestOf aggregations algorithm history) := by
  unfold digests
  rw [h.buckets_eq, List.map_map]
  refine List.map_congr_left ?_
  intro b hmem
  obtain ⟨key, hash⟩ := b
  rw [SortedMap.mem_entries_iff, h.get?_eq, bucketHash_eq_some_iff] at hmem
  obtain ⟨-, rfl⟩ := hmem
  exact congrArg (Entry.aggregate · key) (RunningHash.finish_feed_start ..)

theorem Filled.bucketCount_eq (h : Filled aggregations algorithm history s hashes) :
    s.bucketCount = (bucketsOf aggregations history).length := by
  rw [← h.keys_perm.length_eq, List.length_map]
  unfold bucketCount
  rw [h.buckets_eq]
  rfl

/-- **Digests.** A scan whose aggregations govern distinct attributes can be started; whatever
entries it is then offered, it lists one aggregate for each bucket of an entry that was taken and no
other, in ascending order of the labels, and the aggregate carries the digest of the versions in the
bucket, put together in order of arrival. -/
theorem digests_group_history {aggregations : List Aggregation}
    (hd : (aggregations.map Aggregation.attr).Nodup) (collation : Collation)
    (algorithm : Algorithm) (entries : List Entry) :
    ∃ s₀, start aggregations collation = .ok s₀ ∧
      let r := (s₀.withAlgorithm algorithm).run (entries.map Call.add)
      let history := taken r.2
      (∀ e ∈ history, ∃ key ∈ bucketsOf aggregations history,
        bucketOf aggregations e.attributes = .ok key) ∧
      (∀ attributes key,
        bucketOf aggregations attributes = .ok key ↔ IsBucket aggregations attributes key) ∧
      (∃ digests, (r.1.step .digests).2 = .digests digests ∧
        digests.Perm ((bucketsOf aggregations history).map
          (digestOf aggregations algorithm history)) ∧
        digests.Pairwise fun d d' => d.attributes.compareOctets d'.attributes = .lt) ∧
      (r.1.step .bucketCount).2 = .count (bucketsOf aggregations history).length ∧
      (r.1.step .entryCount).2 = .count history.length := by
  have hdup := (Aggregation.duplicate?_eq_none_iff _).2 hd
  obtain ⟨s₀, hs₀⟩ : ∃ s₀, start aggregations collation = .ok s₀ :=
    ⟨_, start_eq_ok_iff.2 ⟨hdup, rfl⟩⟩
  refine ⟨s₀, hs₀, ?_⟩
  obtain ⟨hashes, h⟩ := filled_run (filled_start hs₀ algorithm) entries
  have hr := recorded_run ((recorded_start hs₀).withAlgorithm algorithm) (entries.map Call.add)
  rw [List.nil_append] at h hr
  refine ⟨fun e he => ?_, fun attributes key => bucketOf_eq_ok_iff hd, ⟨_, rfl, ?_, ?_⟩, ?_, ?_⟩
  · obtain ⟨key, hkey⟩ := h.labelled e he
    exact ⟨key, mem_bucketsOf_iff.2 ⟨e, he, hkey⟩, hkey⟩
  · rw [h.digests_eq]
    exact h.keys_perm.map _
  · refine (ascending_of_filling h.buckets_eq).imp fun hlt => ?_
    rwa [← Attributes.compare_eq_octets]
  · exact congrArg Answer.count h.bucketCount_eq
  · exact congrArg Answer.count hr.entryCount_eq

/-- Three entries are offered, of which the second has no kind, and two groups are listed. -/
theorem digests_group_history_of_two_kinds :
    let aggregations : List Aggregation := [⟨"kind", .byName, none⟩]
    let entries : List Entry :=
      [.entity "1" "v1" (.ofList [("kind", "x")]), .entity "2" "v2" .empty,
        .entity "3" "v3" (.ofList [("kind", "y")])]
    (aggregations.map Aggregation.attr).Nodup ∧
      ∃ s₀, start aggregations .ascii = .ok s₀ ∧
        let s := ((s₀.withAlgorithm .blake3).run (entries.map Call.add)).1
        (s.step .bucketCount).2 = .count 2 ∧ (s.step .entryCount).2 = .count 2 := by
  intro aggregations entries
  have hd : (aggregations.map Aggregation.attr).Nodup := by decide
  obtain ⟨s₀, hs₀, -, -, -, hbuckets, hcount⟩ := digests_group_history hd .ascii .blake3 entries
  refine ⟨hd, s₀, hs₀, ?_, ?_⟩
  · cases hs₀; exact hbuckets
  · cases hs₀; exact hcount

end Scan

end BucketDigest
