import BucketDigest.Proofs.Aggregation.Coarsening
import BucketDigest.Proofs.Scan.Batch

/-!
# Digests that are scanned again

The digests of one scan can be the entries of another. If the second has coarser aggregations
(`Coarsens`), its buckets are those that the entries themselves would have fallen in.

* `bucketOf_bucketOf`: the coarse bucket of a fine bucket.
* `addAll_of_aggregates`: aggregates are taken in any order if they have their labels.

Main statement: `rescan_reaches_direct_buckets`.
-/
namespace BucketDigest

/-- What one list of aggregations does not group by the value itself, the other groups likewise and
no finer. -/
def Coarsens (fine coarse : List Aggregation) : Prop :=
  ∀ a ∈ fine, a.rule = .byName ∨ ∃ b ∈ coarse, b.attr = a.attr ∧ a.rule.Refines b.rule

/-- Every value that is aggregated as a date lies in a year with four digits. -/
def AllDated (aggregations : List Aggregation) (attributes : Attributes) : Prop :=
  ∀ a ∈ aggregations, ∀ raw, attributes.get? a.attr = some raw → a.rule.Dated raw

/-! ## Buckets of buckets -/

theorem Aggregation.eq_of_attr {aggregations : List Aggregation}
    (hd : (aggregations.map Aggregation.attr).Nodup) {a b : Aggregation} (ha : a ∈ aggregations)
    (hb : b ∈ aggregations) (h : a.attr = b.attr) : a = b :=
  List.inj_on_of_nodup_map hd ha hb h

section
variable {fine coarse : List Aggregation} {attributes key key' : Attributes}

/-- A value that is grouped by name, or not at all, is in the bucket as it was. -/
theorem IsBucket.get?_of_byName (h : IsBucket fine attributes key) {attr : String}
    (hattr : ∀ a ∈ fine, a.attr = attr → a.rule = .byName) :
    key.get? attr = attributes.get? attr := by
  by_cases hex : ∃ a ∈ fine, a.attr = attr
  · obtain ⟨a, ha, rfl⟩ := hex
    obtain ⟨label, ⟨raw, hraw, hlabel⟩, hkey⟩ := h.labelled a ha
    rw [hattr a ha rfl] at hlabel
    cases hlabel
    rw [hkey, hraw]
  · exact h.kept attr fun a ha he => hex ⟨a, ha, he⟩

/-- An aggregation gives a bucket the label that it gives the attributes in it. -/
theorem IsBucket.gives (hcoarse : (coarse.map Aggregation.attr).Nodup)
    (h : Coarsens fine coarse) (hdated : AllDated fine attributes)
    (hkey : IsBucket fine attributes key) {b : Aggregation} (hb : b ∈ coarse) {label : String}
    (hgives : b.Gives attributes label) : b.Gives key label := by
  obtain ⟨raw, hraw, hlabel⟩ := hgives
  by_cases hname : ∀ a ∈ fine, a.attr = b.attr → a.rule = .byName
  · exact ⟨raw, by rw [hkey.get?_of_byName hname, hraw], hlabel⟩
  · -- The value has been replaced by a label, which has to be labelled again.
    push Not at hname
    obtain ⟨a, ha, hattr, hrule⟩ := hname
    obtain ⟨b', hb', hattr', hrefines⟩ := (h a ha).resolve_left hrule
    obtain rfl := Aggregation.eq_of_attr hcoarse hb' hb (hattr'.trans hattr)
    obtain ⟨fineLabel, ⟨raw', hraw', hfine⟩, hget⟩ := hkey.labelled a ha
    rw [hattr, hraw] at hraw'
    cases hraw'
    rw [hattr] at hget
    exact ⟨fineLabel, hget,
      hrefines.label_label (hdated a ha raw (by rw [hattr, hraw])) hfine hlabel⟩

/-- The coarse bucket of a fine bucket is the coarse bucket of the attributes. -/
theorem bucketOf_bucketOf (hfine : (fine.map Aggregation.attr).Nodup)
    (hcoarse : (coarse.map Aggregation.attr).Nodup) (h : Coarsens fine coarse)
    (hdated : AllDated fine attributes) (hkey : bucketOf fine attributes = .ok key)
    (hkey' : bucketOf coarse attributes = .ok key') : bucketOf coarse key = .ok key' := by
  rw [bucketOf_eq_ok_iff hfine] at hkey
  rw [bucketOf_eq_ok_iff hcoarse] at hkey' ⊢
  constructor
  · intro b hb
    obtain ⟨label, hgives, hget⟩ := hkey'.labelled b hb
    exact ⟨label, hkey.gives hcoarse h hdated hb hgives, hget⟩
  · intro attr hattr
    rw [hkey'.kept attr hattr]
    refine (hkey.get?_of_byName fun a ha he => ?_).symm
    refine (h a ha).resolve_right fun hex => ?_
    obtain ⟨b, hb, hattr', -⟩ := hex
    exact hattr b hb (hattr'.trans he)

end

/-! ## Listed labels -/

theorem Ascending.pairwise_attributes {digests : List Entry} (h : Ascending digests) :
    (digests.map Entry.attributes).Pairwise fun a b => compare a b = .lt :=
  List.pairwise_map.2 h

/-- The same labels are listed in the same order. -/
theorem Ascending.attributes_eq {digests digests' : List Entry} (h : Ascending digests)
    (h' : Ascending digests')
    (hmem : ∀ key, key ∈ digests.map Entry.attributes ↔ key ∈ digests'.map Entry.attributes) :
    digests.map Entry.attributes = digests'.map Entry.attributes := by
  have hnodup := h.pairwise_attributes.imp fun hlt => SortedMap.ne_of_compare_lt hlt
  have hnodup' := h'.pairwise_attributes.imp fun hlt => SortedMap.ne_of_compare_lt hlt
  refine ((List.perm_ext_iff_of_nodup hnodup hnodup').2 hmem).eq_of_pairwise
    (fun x y _ _ hxy hyx => ?_) h.pairwise_attributes h'.pairwise_attributes
  exact absurd hyx (Std.OrientedCmp.not_lt_of_lt hxy)

namespace Scan

variable {aggregations : List Aggregation} {algorithm : Algorithm} {history : List Entry}
  {s : Scan} {hashes : SortedMap Attributes RunningHash}

/-! ## Aggregates -/

/-- An aggregate has no id that could be out of order. -/
theorem add_aggregate (h : Filled aggregations algorithm history s hashes) {e : Entry}
    (hid : e.id = none) {key : Attributes} (hkey : bucketOf aggregations e.attributes = .ok key) :
    s.add e = .ok (s.extend hashes key e) := by
  have hcheck : s.checkOrder e = .ok () := by
    unfold checkOrder
    rw [hid]
    cases s.lastId <;> rfl
  unfold add
  rw [run_take_filling h.buckets_eq, hcheck, h.aggregations_eq, hkey]

/-- Aggregates are taken in any order if each has its labels. -/
theorem addAll_of_aggregates {entries : List Entry}
    (h : Filled aggregations algorithm history s hashes)
    (hentries : ∀ e ∈ entries, e.id = none ∧ ∃ key, bucketOf aggregations e.attributes = .ok key) :
    ∃ s', s.addAll entries = .ok s' := by
  induction entries generalizing history s hashes with
  | nil => exact ⟨s, rfl⟩
  | cons e rest ih =>
    obtain ⟨⟨hid, key, hkey⟩, hrest⟩ := List.forall_mem_cons.1 hentries
    obtain ⟨hashes', h'⟩ := h.extend hkey
    rw [addAll_cons, add_aggregate h hid hkey]
    exact ih h' hrest

/-! ## The labels of the digests -/

theorem Filled.attributes_digests (h : Filled aggregations algorithm history s hashes) :
    s.digests.map Entry.attributes = hashes.entries.map Prod.fst := by
  rw [h.digests_eq, List.map_map]
  exact List.map_id _

theorem Filled.mem_attributes_digests_iff (h : Filled aggregations algorithm history s hashes)
    {key : Attributes} :
    key ∈ s.digests.map Entry.attributes ↔
      ∃ e ∈ history, bucketOf aggregations e.attributes = .ok key := by
  rw [h.attributes_digests, h.keys_perm.mem_iff, mem_bucketsOf_iff]

theorem Filled.id_eq_none (h : Filled aggregations algorithm history s hashes) {d : Entry}
    (hd : d ∈ s.digests) : d.id = none := by
  rw [h.digests_eq] at hd
  obtain ⟨key, -, rfl⟩ := List.mem_map.1 hd
  rfl

/-- **Rescanning.** Let a list of aggregations coarsen another, and let scans with the one and with
the other take all of some entries, whose dates lie in years with four digits. Then a new scan with
the coarser aggregations takes all digests of the finer scan, and its own digests have just the
labels that those of the direct coarse scan have. -/
theorem rescan_reaches_direct_buckets {fine coarse : List Aggregation} (h : Coarsens fine coarse)
    {byFine byCoarse byRescan : Collation} {f k r : Scan}
    (hf : start fine byFine = .ok f) (hk : start coarse byCoarse = .ok k)
    (hr : start coarse byRescan = .ok r) (ofFine ofCoarse ofRescan : Algorithm)
    {entries : List Entry} (hdated : ∀ e ∈ entries, AllDated fine e.attributes)
    {f' k' : Scan} (hf' : (f.withAlgorithm ofFine).addAll entries = .ok f')
    (hk' : (k.withAlgorithm ofCoarse).addAll entries = .ok k') :
    ∃ r', (r.withAlgorithm ofRescan).addAll f'.digests = .ok r' ∧
      r'.digests.map Entry.attributes = k'.digests.map Entry.attributes := by
  have hdistinct : ∀ {aggregations collation s}, start aggregations collation = .ok s →
      (aggregations.map Aggregation.attr).Nodup := fun hs =>
    (Aggregation.duplicate?_eq_none_iff _).1 (start_eq_ok_iff.1 hs).1
  obtain ⟨fineHashes, hfilled⟩ := filled_addAll (filled_start hf ofFine) hf'
  obtain ⟨coarseHashes, hfilled'⟩ := filled_addAll (filled_start hk ofCoarse) hk'
  rw [List.nil_append] at hfilled hfilled'
  -- Each entry has a coarse bucket, and the fine bucket of the entry has the same one.
  have hagain : ∀ e ∈ entries, ∀ key, bucketOf fine e.attributes = .ok key →
      ∃ key', bucketOf coarse e.attributes = .ok key' ∧ bucketOf coarse key = .ok key' := by
    intro e he key hkey
    obtain ⟨key', hkey'⟩ := hfilled'.labelled e he
    exact ⟨key', hkey',
      bucketOf_bucketOf (hdistinct hf) (hdistinct hk) h (hdated e he) hkey hkey'⟩
  have hdigests : ∀ d ∈ f'.digests,
      ∃ e ∈ entries, bucketOf fine e.attributes = .ok d.attributes := fun d hd =>
    hfilled.mem_attributes_digests_iff.1 (List.mem_map_of_mem hd)
  have haggregates : ∀ d ∈ f'.digests,
      d.id = none ∧ ∃ key, bucketOf coarse d.attributes = .ok key := by
    intro d hd
    obtain ⟨e, he, hkey⟩ := hdigests d hd
    obtain ⟨key', -, hkey'⟩ := hagain e he _ hkey
    exact ⟨hfilled.id_eq_none hd, key', hkey'⟩
  obtain ⟨r', hr'⟩ := addAll_of_aggregates (filled_start hr ofRescan) haggregates
  obtain ⟨rescanHashes, hfilled''⟩ := filled_addAll (filled_start hr ofRescan) hr'
  rw [List.nil_append] at hfilled''
  refine ⟨r', hr', (ascending_of_filling hfilled''.buckets_eq).attributes_eq
    (ascending_of_filling hfilled'.buckets_eq) fun key' => ?_⟩
  rw [hfilled''.mem_attributes_digests_iff, hfilled'.mem_attributes_digests_iff]
  constructor
  · intro hex
    obtain ⟨d, hd, hkey'⟩ := hex
    obtain ⟨e, he, hkey⟩ := hdigests d hd
    obtain ⟨key'', hdirect, htwice⟩ := hagain e he _ hkey
    rw [hkey'] at htwice
    cases htwice
    exact ⟨e, he, hdirect⟩
  · intro hex
    obtain ⟨e, he, hdirect⟩ := hex
    obtain ⟨key, hkey⟩ := hfilled.labelled e he
    obtain ⟨key'', hdirect', htwice⟩ := hagain e he _ hkey
    rw [hdirect] at hdirect'
    cases hdirect'
    obtain ⟨d, hd, rfl⟩ := List.mem_map.1 (hfilled.mem_attributes_digests_iff.2 ⟨e, he, hkey⟩)
    exact ⟨d, hd, htwice⟩

/-- A leap second of the old year, which is written with an offset, and an integer below zero are
rescanned together with others from instants to months, from tens to hundreds and from two letters
to one; the first scan leaves the kind as it is, the second does not know it. -/
theorem rescan_reaches_direct_buckets_of_leap_second :
    let fine : List Aggregation :=
      [⟨"born", .date .individual, none⟩, ⟨"kind", .byName, none⟩,
        ⟨"name", .textPrefix ⟨[2, 5], by decide, by decide⟩, none⟩,
        ⟨"size", .integer ⟨10, by decide +kernel⟩, none⟩]
    let coarse : List Aggregation :=
      [⟨"size", .integer ⟨100, by decide +kernel⟩, none⟩,
        ⟨"name", .textPrefix ⟨[1], by decide, by decide⟩, none⟩, ⟨"born", .date .monthly, none⟩]
    let entries : List Entry :=
      [.entity "1" "v1" (.ofList [("born", "2017-01-01T00:59:60.9995+01:00"), ("kind", "x"),
          ("name", "Émile"), ("size", "-1")]),
        .entity "2" "v2" (.ofList [("born", "2016-12-01T00:00:00Z"), ("kind", "x"),
          ("name", "Éva"), ("size", "-99")])]
    Coarsens fine coarse ∧ (∀ e ∈ entries, AllDated fine e.attributes) ∧
      ∃ f k r f' k' r', start fine .ascii = .ok f ∧ start coarse .ascii = .ok k ∧
        start coarse (.unicode Collation.byWeights) = .ok r ∧
        (f.withAlgorithm .md5).addAll entries = .ok f' ∧
        (k.withAlgorithm .blake3).addAll entries = .ok k' ∧ f'.bucketCount = 2 ∧
        (r.withAlgorithm .md5).addAll f'.digests = .ok r' ∧
        r'.digests.map Entry.attributes =
          [.ofList [("born", "2016-12"), ("kind", "x"), ("name", "É"), ("size", "-100")]] := by
  intro fine coarse entries
  have hcoarsens : Coarsens fine coarse := by
    intro a ha
    simp only [fine, List.mem_cons, List.not_mem_nil, or_false] at ha
    rcases ha with rfl | rfl | rfl | rfl
    · exact .inr ⟨_, .tail _ (.tail _ (.head _)), rfl, .date (by decide)⟩
    · exact .inl rfl
    · exact .inr ⟨_, .tail _ (.head _), rfl, .textPrefix (by decide)⟩
    · exact .inr ⟨_, .head _, rfl, .integer (by decide)⟩
  have hdated : ∀ e ∈ entries, AllDated fine e.attributes := by
    intro e he a ha raw hraw
    simp only [fine, List.mem_cons, List.not_mem_nil, or_false] at ha
    simp only [entries, List.mem_cons, List.not_mem_nil, or_false] at he
    rcases ha with rfl | rfl | rfl | rfl
    · rcases he with rfl | rfl <;> cases hraw <;> intro m hm <;> cases hm <;>
        exact ⟨by decide, by decide⟩
    · trivial
    · trivial
    · trivial
  let f : Scan := ⟨fine, .ascii, .md5, none, 0, .filling .empty⟩
  let k : Scan := ⟨coarse, .ascii, .md5, none, 0, .filling .empty⟩
  let r : Scan := ⟨coarse, .unicode Collation.byWeights, .md5, none, 0, .filling .empty⟩
  have hf : start fine .ascii = .ok f := rfl
  have hk : start coarse .ascii = .ok k := rfl
  have hr : start coarse (.unicode Collation.byWeights) = .ok r := rfl
  have hf' : (f.withAlgorithm .md5).addAll entries = .ok _ := addAll_of_feed (by decide +kernel)
  have hk' : (k.withAlgorithm .blake3).addAll entries = .ok _ := addAll_of_feed (by decide +kernel)
  obtain ⟨r', hr', hlabels⟩ := rescan_reaches_direct_buckets hcoarsens hf hk hr
    .md5 .blake3 .md5 hdated hf' hk'
  exact ⟨hcoarsens, hdated, f, k, r, _, _, r', hf, hk, hr, hf', hk', by decide +kernel, hr',
    hlabels.trans (by decide +kernel)⟩

end Scan

end BucketDigest
