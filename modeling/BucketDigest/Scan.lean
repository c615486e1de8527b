import BucketDigest.Aggregation
import BucketDigest.Entry
import BucketDigest.Scan.Error
import BucketDigest.Settings

/-!
# Scans

A scan takes entries in the order of their ids, puts each into the bucket that the labels of its
attributes name, and hashes the versions of each bucket in order of arrival.

The first time the digests are read the scan is sealed: no entry is taken after that, so a digest
that has been given out stays true.

* `Scan.add` takes one entry or says why it is refused; a refused entry changes nothing.
* `Scan.digests` gives one aggregate for each bucket, in the order of the labels.
* `Scan.sealed` is the scan after its digests have been read.
-/
namespace BucketDigest

/-- The label that an aggregation gives to a value of its attribute. -/
def Aggregation.label (a : Aggregation) (raw : String) : Except ScanError String :=
  match a.rule.label raw with
  | .ok label => .ok label
  | .error reason => .error (.malformedValue a.attr raw reason)

/-- The label that an aggregation gives to some attributes. -/
def Aggregation.labelOf (a : Aggregation) (attributes : Attributes) : Except ScanError String :=
  match attributes.get? a.attr with
  | none => .error (.missingAttribute a.attr)
  | some raw => a.label raw

/-- The bucket of some attributes: each attribute that is aggregated is replaced by its label, and
every other one is kept. -/
def bucketOf (aggregations : List Aggregation) (attributes : Attributes) :
    Except ScanError Attributes :=
  aggregations.foldlM
    (fun key a => (a.labelOf attributes).map fun label => key.insert a.attr label) attributes

/-- The buckets of a scan: being filled, or read and closed. -/
inductive Buckets
  | filling (hashes : SortedMap Attributes RunningHash)
  | closed (digests : List Entry)

/-- A scan of entries. -/
structure Scan where
  aggregations : List Aggregation
  collation : Collation
  algorithm : Algorithm
  lastId : Option String
  entryCount : Nat
  buckets : Buckets

namespace Scan

/-- A scan that has seen nothing. At most one aggregation may govern an attribute. -/
def start (aggregations : List Aggregation) (collation : Collation) : Except SetupError Scan :=
  match Aggregation.duplicate? aggregations with
  | some attr => .error (.duplicateAggregation attr)
  | none => .ok ⟨aggregations, collation, .md5, none, 0, .filling .empty⟩

/-- Chooses the hash function of the buckets that are yet to come. -/
def withAlgorithm (s : Scan) (algorithm : Algorithm) : Scan :=
  { s with algorithm := algorithm }

/-- A scan that has seen nothing, with the given settings. The order of the ids comes first: without
it, nothing is said about the aggregations. -/
def ofSettings (collator : Collator) (aggregations : List Aggregation) (settings : Settings) :
    Except SetupError Scan :=
  match settings.collation.build collator with
  | .error error => .error error
  | .ok collation =>
    (start aggregations collation).map fun s => s.withAlgorithm settings.algorithm

/-- Whether the digests have been read. -/
def isSealed (s : Scan) : Bool :=
  match s.buckets with
  | .filling _ => false
  | .closed _ => true

/-- How many buckets hold an entry. -/
def bucketCount (s : Scan) : Nat :=
  match s.buckets with
  | .filling hashes => hashes.size
  | .closed digests => digests.length

/-- Refuses an entry whose id sorts below the last one. Entries without an id are not compared. -/
def checkOrder (s : Scan) (e : Entry) : Except ScanError Unit :=
  match s.lastId, e.id with
  | some previous, some current =>
    if s.collation.inOrder previous current then .ok () else .error (.outOfOrder previous current)
  | _, _ => .ok ()

/-! ### Taking an entry -/

/-- Work on a scan. What has been changed before a failure stays changed. -/
abbrev Work := EStateM ScanError Scan

/-- Fails if a check does. -/
def Work.check {α : Type} (result : Except ScanError α) : Work α :=
  match result with
  | .ok a => pure a
  | .error error => throw error

/-- Fails if the digests have been read. -/
def refuseWhenRead : Work Unit := do
  let s ← get
  if s.isSealed then throw .alreadyRead else pure ()

/-- Puts a version into a bucket, which is new if nothing has been put there before. -/
def put (key : Attributes) (version : String) : Work Unit := do
  let s ← get
  match s.buckets with
  | .closed _ => throw .alreadyRead
  | .filling hashes =>
    set { s with
      buckets := .filling (hashes.upsert key fun hash =>
        (hash.getD (.start s.algorithm)).feed (Text.bytes version)) }

/-- Keeps an id as the last one. An entry without an id leaves the last id as it is. -/
def remember (id : Option String) : Work Unit :=
  match id with
  | some id => modify fun s => { s with lastId := some id }
  | none => pure ()

/-- Takes an entry into its bucket. All that can be wrong with it is found before anything is
changed. -/
def take (e : Entry) : Work Unit := do
  refuseWhenRead
  let s ← get
  Work.check (s.checkOrder e)
  let key ← Work.check (bucketOf s.aggregations e.attributes)
  put key e.version
  remember e.id
  modify fun s => { s with entryCount := s.entryCount + 1 }

/-- The scan after an entry has been offered, and whether it was taken. -/
def offer (s : Scan) (e : Entry) : Scan × Except ScanError Unit :=
  match (take e).run s with
  | .ok () s => (s, .ok ())
  | .error error s => (s, .error error)

/-- The scan that has taken an entry, or why it is refused. -/
def add (s : Scan) (e : Entry) : Except ScanError Scan :=
  match (take e).run s with
  | .ok () s => .ok s
  | .error error _ => .error error

/-- A scan that is being filled, with one entry more in a given bucket. -/
def extend (s : Scan) (hashes : SortedMap Attributes RunningHash) (key : Attributes) (e : Entry) :
    Scan :=
  { s with
    lastId := e.id.or s.lastId
    entryCount := s.entryCount + 1
    buckets := .filling (hashes.upsert key fun hash =>
      (hash.getD (.start s.algorithm)).feed (Text.bytes e.version)) }

@[simp] theorem Work.run_check {α : Type} (result : Except ScanError α) (s : Scan) :
    (Work.check result).run s =
      match result with
      | .ok a => .ok a s
      | .error error => .error error s := by
  cases result <;> rfl

/-- What taking an entry does to a scan whose digests have been read. -/
theorem run_take_closed {s : Scan} {digests : List Entry} (h : s.buckets = .closed digests)
    (e : Entry) : (take e).run s = .error .alreadyRead s := by
  have hs : s.isSealed = true := by simp [isSealed, h]
  simp [take, refuseWhenRead, hs]

/-- What taking an entry does to a scan that is being filled. -/
theorem run_take_filling {s : Scan} {hashes : SortedMap Attributes RunningHash}
    (h : s.buckets = .filling hashes) (e : Entry) :
    (take e).run s =
      match s.checkOrder e with
      | .error error => .error error s
      | .ok () =>
        match bucketOf s.aggregations e.attributes with
        | .error error => .error error s
        | .ok key => .ok () (s.extend hashes key e) := by
  have hopen : refuseWhenRead.run s = .ok () s := by simp [refuseWhenRead, isSealed, h]
  have hput : ∀ key, (put key e.version).run s = .ok () { s with
      buckets := .filling (hashes.upsert key fun hash =>
        (hash.getD (.start s.algorithm)).feed (Text.bytes e.version)) } := by
    intro key
    simp [put, h]
  simp only [take, EStateM.run_bind, EStateM.run_get, hopen, Work.run_check]
  cases s.checkOrder e with
  | error error => rfl
  | ok u =>
    cases bucketOf s.aggregations e.attributes with
    | error error => rfl
    | ok key =>
      simp only [hput]
      cases hid : e.id <;> simp [remember, extend, hid]

/-- A scan that refuses an entry is as it was before. -/
theorem run_take_error {s s' : Scan} {e : Entry} {error : ScanError}
    (h : (take e).run s = .error error s') : s' = s := by
  cases hb : s.buckets with
  | closed digests => rw [run_take_closed hb] at h; cases h; rfl
  | filling hashes =>
    rw [run_take_filling hb] at h
    split at h
    · cases h; rfl
    · split at h
      · cases h; rfl
      · cases h

/-- Taking an entry and offering it come to the same, and a refused entry changes nothing. -/
theorem offer_eq (s : Scan) (e : Entry) :
    s.offer e =
      match s.add e with
      | .ok s' => (s', .ok ())
      | .error error => (s, .error error) := by
  simp only [offer, add]
  cases h : (take e).run s with
  | ok _ _ => rfl
  | error error s' => rw [run_take_error h]

/-- Takes entries one after the other, or says why the first that is refused is refused. -/
def addAll (s : Scan) (entries : List Entry) : Except ScanError Scan :=
  entries.foldlM add s

/-- The scan after entries have been offered up to the first that is refused, and whether all of
them were taken. -/
def feed (s : Scan) : List Entry → Scan × Except ScanError Unit
  | [] => (s, .ok ())
  | e :: rest =>
    match s.offer e with
    | (s, .ok ()) => feed s rest
    | (s, .error error) => (s, .error error)

/-- The digests: one aggregate for each bucket, in the order of the labels. -/
def digests (s : Scan) : List Entry :=
  match s.buckets with
  | .filling hashes => hashes.entries.map fun b => Entry.aggregate b.2.finish b.1
  | .closed digests => digests

/-- The scan after its digests have been read. -/
def sealed (s : Scan) : Scan :=
  { s with buckets := .closed s.digests }

/-- The scan as diagnostics show it. -/
def describe (s : Scan) : String :=
  "DigestBuilder \x7b aggregations: " ++ Aggregation.describeAll s.aggregations ++
    ", collation: " ++ Text.quoted s.collation.name ++
    ", algorithm: " ++ s.algorithm.describe ++
    ", sealed: " ++ (if s.isSealed then "true" else "false") ++
    ", buckets: " ++ Numeral.countText s.bucketCount ++
    ", entries: " ++ Numeral.countText s.entryCount ++ " \x7d"

@[simp] theorem digests_sealed (s : Scan) : s.sealed.digests = s.digests := rfl

@[simp] theorem isSealed_sealed (s : Scan) : s.sealed.isSealed = true := rfl

/-- Offering entries and taking all of them come to the same. -/
theorem addAll_eq_feed (s : Scan) (entries : List Entry) :
    s.addAll entries = (s.feed entries).2.map fun _ => (s.feed entries).1 := by
  induction entries generalizing s with
  | nil => rfl
  | cons e rest ih =>
    simp only [addAll, List.foldlM_cons, feed, offer_eq]
    cases h : s.add e with
    | error => rfl
    | ok s' => exact ih s'

theorem addAll_of_feed {s : Scan} {entries : List Entry} (h : (s.feed entries).2 = .ok ()) :
    s.addAll entries = .ok (s.feed entries).1 := by
  rw [addAll_eq_feed, h]
  rfl

@[simp] theorem add_sealed (s : Scan) (e : Entry) : s.sealed.add e = .error .alreadyRead := rfl

end Scan

/-- The digests of a finished scan and the hash function they are labelled with. -/
structure SealedDigests where
  algorithm : Algorithm
  entries : List Entry
  deriving DecidableEq

namespace SealedDigests

/-- What a scan comes to. -/
def ofScan (s : Scan) : SealedDigests := ⟨s.algorithm, s.digests⟩

/-- How many digests there are. -/
def size (d : SealedDigests) : Nat := d.entries.length

/-- Whether there is no digest. -/
def isEmpty (d : SealedDigests) : Bool := d.entries.isEmpty

/-- The digest of the bucket with exactly the given labels. -/
def get? (d : SealedDigests) (labels : Attributes) : Option String :=
  (d.entries.find? fun e => e.attributes = labels).map Entry.version

end SealedDigests

end BucketDigest
