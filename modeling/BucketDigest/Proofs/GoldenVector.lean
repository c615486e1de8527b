import BucketDigest.GoldenVector
import BucketDigest.Proofs.Collation.CodePoint
import BucketDigest.Proofs.Numeral.Order
import BucketDigest.Proofs.Scan.Batch
import BucketDigest.Proofs.Scan.Labelling

/-!
# Golden vectors and one-shot digests

A golden vector is digested by a scan, whose ids are made up. Four digits are enough to keep ten
thousand ids in the order of octets (`inOrder_entryId`); the next id has a fifth digit and sorts
below the one before it.

* `allAdmissible_of_isPrefix`: so the entries can follow one another, up to that one.
* `computed_of_addAll`: where all are taken, the one bucket has the digest of the versions together.
* `golden_digest_is_one_shot_iff`: and otherwise the digest is empty.
-/
namespace BucketDigest

open Numeral (padded)

/-- Texts put together have the octets of each in turn. -/
theorem Text.bytes_join (l : List String) : bytes (String.join l) = l.flatMap bytes := by
  unfold bytes
  rw [String.toList_join, List.flatMap_assoc]

theorem Algorithm.hexDigest_ne_empty (algorithm : Algorithm) (s : List UInt8) :
    algorithm.hexDigest s ≠ "" := by
  intro he
  have hlen := algorithm.length_hexDigest s
  rw [he] at hlen
  cases algorithm <;> cases hlen

/-- An entry with an id at the end of a history gives the last id. -/
theorem lastId?_of_getLast? {history : List Entry} {e : Entry} {id : String}
    (hlast : history.getLast? = some e) (hid : e.id = some id) : lastId? history = some id := by
  obtain ⟨before, rfl⟩ := List.getLast?_eq_some_iff.1 hlast
  rw [lastId?_append, hid, Option.some_or]

namespace GoldenVector

variable {v : GoldenVector}

/-! ## The entries -/

theorem entryId_eq (index : Nat) :
    entryId index = String.ofList ('i' :: 'd' :: padded 4 index) := by
  rw [entryId, show "id" = String.ofList ['i', 'd'] from rfl, ← String.ofList_append]
  rfl

/-- Up to four digits the ids ascend. -/
theorem inOrder_entryId {i j : Nat} (hij : i < j) (hj : j < 10000) :
    Collation.ascii.inOrder (entryId i) (entryId j) = true := by
  have hlt := Numeral.padded_append_lt hij (show j < 10 ^ 4 from hj) [] []
  rw [List.append_nil, List.append_nil] at hlt
  have hids : ['i', 'd'] ++ padded 4 i < ['i', 'd'] ++ padded 4 j := List.append_left_lt hlt
  rw [entryId_eq, entryId_eq, Collation.inOrder_ascii_iff]
  exact List.lt_asymm hids

theorem getElem?_entries (v : GoldenVector) (index : Nat) :
    v.entries[index]? = v.versions[index]?.map fun version =>
      Entry.entity (entryId index) version .empty :=
  List.getElem?_mapIdx

theorem length_entries (v : GoldenVector) : v.entries.length = v.versions.length :=
  List.length_mapIdx

theorem id_of_getElem? {index : Nat} {e : Entry} (h : v.entries[index]? = some e) :
    e.id = some (entryId index) := by
  rw [getElem?_entries] at h
  obtain ⟨version, -, rfl⟩ := Option.map_eq_some_iff.1 h
  rfl

theorem attributes_of_mem {e : Entry} (h : e ∈ v.entries) : e.attributes = .empty := by
  obtain ⟨index, h⟩ := List.mem_iff_getElem?.1 h
  rw [getElem?_entries] at h
  obtain ⟨version, -, rfl⟩ := Option.map_eq_some_iff.1 h
  rfl

theorem map_version_entries (v : GoldenVector) : v.entries.map Entry.version = v.versions := by
  refine List.ext_getElem? fun index => ?_
  rw [List.getElem?_map, getElem?_entries, Option.map_map]
  exact Option.map_id' ..

/-- Each entry has the id of its index. -/
theorem id_of_split {before after : List Entry} {e : Entry} (h : v.entries = before ++ e :: after) :
    e.id = some (entryId before.length) ∧
      ∀ x ∈ before, ∃ index < before.length, x.id = some (entryId index) := by
  constructor
  · apply id_of_getElem?
    rw [h, List.getElem?_append_right (Nat.le_refl _), Nat.sub_self, List.getElem?_cons_zero]
  · intro x hx
    obtain ⟨index, hindex, hget⟩ := List.mem_iff_getElem.1 hx
    refine ⟨index, hindex, id_of_getElem? (v := v) ?_⟩
    rw [h, List.getElem?_append_left hindex, List.getElem?_eq_getElem hindex, hget]

/-- The entries can follow one another as far as their ids have four digits. -/
theorem allAdmissible_of_isPrefix {entries : List Entry} (h : entries <+: v.entries)
    (hlen : entries.length ≤ 10000) : AllAdmissible [] .ascii [] entries := by
  rintro before e after rfl
  obtain ⟨rest, hrest⟩ := h
  rw [List.append_assoc, List.cons_append] at hrest
  rw [List.length_append, List.length_cons] at hlen
  obtain ⟨he, hbefore⟩ := id_of_split hrest.symm
  refine ⟨fun id hid x hx id' hid' => ?_, nofun⟩
  obtain ⟨index, hindex, hx⟩ := hbefore x hx
  cases he.symm.trans hid
  cases hx.symm.trans hid'
  exact (Collation.inOrder_iff ..).1 (inOrder_entryId hindex (by omega))

/-- The first id with five digits sorts below the one before it. -/
theorem refused_of_split {before after : List Entry} {e : Entry}
    (h : v.entries = before ++ e :: after) (hlen : before.length = 10000) :
    Refused [] .ascii before e (.outOfOrder "id9999" "id10000") := by
  have hfour : entryId 9999 = "id9999" := by decide +kernel
  have hfive : entryId 10000 = "id10000" := by decide +kernel
  have he := (id_of_split h).1
  obtain rfl | ⟨init, x, rfl⟩ := List.eq_nil_or_concat' before
  · cases hlen
  rw [List.length_append, List.length_singleton] at hlen
  rw [List.append_assoc] at h
  have hx := (id_of_split h).1
  rw [List.length_append, List.length_singleton, hlen, hfive] at he
  rw [Nat.succ.inj hlen, hfour] at hx
  exact .outOfOrder ⟨lastId?_of_getLast? List.getLast?_concat hx, he, by decide +kernel⟩

/-! ## The scan -/

theorem scan_eq (v : GoldenVector) :
    v.scan = .ok ⟨[], .ascii, v.algorithm, none, 0, .filling .empty⟩ := rfl

variable {s s' : Scan}

theorem orderly_scan (h : v.scan = .ok s) :
    Scan.Orderly [] .ascii [] s ∧ s.isSealed = false := by
  cases h
  exact ⟨⟨⟨rfl, rfl, rfl, rfl⟩, .nil⟩, rfl⟩

/-- All entries are taken if their ids have four digits. -/
theorem exists_addAll (h : v.scan = .ok s) (hlen : v.versions.length ≤ 10000) :
    ∃ s', s.addAll v.entries = .ok s' := by
  obtain ⟨hs, hopen⟩ := orderly_scan h
  refine (Scan.addAll_eq_ok_iff hs hopen).2 (allAdmissible_of_isPrefix (List.prefix_refl _) ?_)
  rwa [length_entries]

theorem addAll_eq_error (h : v.scan = .ok s) (hlen : 10000 < v.versions.length) :
    s.addAll v.entries = .error (.outOfOrder "id9999" "id10000") := by
  obtain ⟨hs, hopen⟩ := orderly_scan h
  rw [← length_entries] at hlen
  have htake : (v.entries.take 10000).length = 10000 := by
    rw [List.length_take]
    omega
  have hsplit : v.entries = v.entries.take 10000 ++ v.entries[10000] :: v.entries.drop 10001 := by
    rw [List.getElem_cons_drop, List.take_append_drop]
  refine (Scan.addAll_eq_error_iff hs hopen _).2 ⟨_, _, _, hsplit, ?_, ?_⟩
  · exact allAdmissible_of_isPrefix (List.take_prefix ..) (Nat.le_of_eq htake)
  · exact refused_of_split hsplit htake

/-- There is one bucket, without labels, and all entries are in it. -/
theorem bucketsOf_entries (hne : v.versions ≠ []) : bucketsOf [] v.entries = [.empty] := by
  have hmap : v.entries.map Entry.attributes = List.replicate v.entries.length .empty :=
    List.map_eq_replicate_iff.2 fun e he => attributes_of_mem he
  have hbuckets : (v.entries.filterMap fun e => (bucketOf [] e.attributes).toOption) =
      v.entries.map Entry.attributes :=
    congrFun (List.filterMap_eq_map (f := Entry.attributes)) v.entries
  unfold bucketsOf
  rw [hbuckets, hmap, List.replicate_dedup]
  rwa [length_entries, ne_eq, List.length_eq_zero_iff]

theorem members_entries (v : GoldenVector) : members [] v.entries .empty = v.entries := by
  refine List.filter_eq_self.2 fun e he => ?_
  rw [attributes_of_mem he]
  rfl

/-- The one bucket has the digest of the versions put together. -/
theorem computed_of_addAll (h : v.scan = .ok s) (hadd : s.addAll v.entries = .ok s')
    (hne : v.versions ≠ []) :
    v.computed = v.algorithm.hexDigest (Text.bytes (String.join v.versions)) := by
  obtain ⟨s₀, hs₀, rfl⟩ :
      ∃ s₀, Scan.start [] .ascii = .ok s₀ ∧ s₀.withAlgorithm v.algorithm = s := by
    cases h
    exact ⟨_, rfl, rfl⟩
  obtain ⟨hashes, hfilled⟩ := Scan.filled_addAll (Scan.filled_start hs₀ v.algorithm) hadd
  rw [List.nil_append] at hfilled
  have hkeys := hfilled.keys_perm
  rw [bucketsOf_entries hne, List.perm_singleton] at hkeys
  have hdigests := hfilled.digests_eq
  rw [hkeys, List.map_singleton] at hdigests
  have hoctets : versionOctets v.entries = Text.bytes (String.join v.versions) := by
    rw [Text.bytes_join, ← map_version_entries, List.flatMap_map]
    rfl
  unfold computed
  simp only [h, hadd, hdigests]
  show v.algorithm.hexDigest (versionOctets (members [] v.entries .empty)) = _
  rw [members_entries, hoctets]

theorem computed_of_length_gt (hlen : 10000 < v.versions.length) : v.computed = "" := by
  unfold computed
  simp only [scan_eq, addAll_eq_error (scan_eq v) hlen]

/-- **Golden vectors.** The scan that digests a golden vector with at least one version takes all
of its entries if and only if there are ten thousand of them at most, and just then the digest is
that of the versions put together. Otherwise it stops at the first id with five digits, which is
refused as out of order, and the digest is empty. -/
theorem golden_digest_is_one_shot_iff (v : GoldenVector) (hne : v.versions ≠ []) :
    ∃ s, v.scan = .ok s ∧
      ((∃ s', s.addAll v.entries = .ok s') ↔ v.versions.length ≤ 10000) ∧
      (v.computed = v.algorithm.hexDigest (Text.bytes (String.join v.versions)) ↔
        v.versions.length ≤ 10000) ∧
      (10000 < v.versions.length →
        s.addAll v.entries = .error (.outOfOrder "id9999" "id10000") ∧ v.computed = "") := by
  refine ⟨_, scan_eq v, ?_⟩
  rcases Nat.lt_or_ge 10000 v.versions.length with hlong | hshort
  · have hrefused := addAll_eq_error (scan_eq v) hlong
    have hempty := computed_of_length_gt hlong
    refine ⟨?_, ?_, fun _ => ⟨hrefused, hempty⟩⟩
    · rw [hrefused]
      exact ⟨nofun, fun hle => absurd hlong (Nat.not_lt.2 hle)⟩
    · rw [hempty]
      exact ⟨fun he => absurd he.symm (v.algorithm.hexDigest_ne_empty _),
        fun hle => absurd hlong (Nat.not_lt.2 hle)⟩
  · obtain ⟨s', hadd⟩ := exists_addAll (scan_eq v) hshort
    exact ⟨iff_of_true ⟨s', hadd⟩ hshort,
      iff_of_true (computed_of_addAll (scan_eq v) hadd hne) hshort,
      fun hlong => absurd hlong (Nat.not_lt.2 hshort)⟩

/-- Three versions, one of them empty. -/
theorem golden_digest_is_one_shot_of_split_token :
    let v : GoldenVector := ⟨"split token", .blake3, ["a", "", "bc"], ""⟩
    v.versions ≠ [] ∧ v.computed = Algorithm.blake3.hexDigest (Text.bytes "abc") := by
  intro v
  have hne : v.versions ≠ [] := nofun
  obtain ⟨s, -, -, hdigest, -⟩ := golden_digest_is_one_shot_iff v hne
  exact ⟨hne, hdigest.2 (by decide)⟩

/-- One version more than there are ids with four digits. -/
theorem golden_digest_is_empty_of_10001_versions :
    let v : GoldenVector := ⟨"long", .md5, List.replicate 10001 "v", ""⟩
    v.versions ≠ [] ∧ (∃ s, v.scan = .ok s ∧
      s.addAll v.entries = .error (.outOfOrder "id9999" "id10000")) ∧ v.computed = "" ∧
      v.computed ≠ v.algorithm.hexDigest (Text.bytes (String.join v.versions)) := by
  intro v
  have hlen : v.versions.length = 10001 := List.length_replicate
  have hlong : 10000 < v.versions.length := hlen ▸ Nat.lt_succ_self 10000
  have hempty := computed_of_length_gt hlong
  refine ⟨List.ne_nil_of_length_pos (by omega), ⟨_, scan_eq v, addAll_eq_error (scan_eq v) hlong⟩,
    hempty, ?_⟩
  rw [hempty]
  exact (v.algorithm.hexDigest_ne_empty _).symm

end GoldenVector

end BucketDigest
