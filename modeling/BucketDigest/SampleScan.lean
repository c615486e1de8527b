import BucketDigest.Digester

/-!
# Sample scans

Small scans and aggregations that participants can try their work on.
-/
namespace BucketDigest

/-- A short list of entries to be digested. -/
structure SampleScan where
  entries : List Entry
  deriving DecidableEq

namespace SampleScan

/-- An entity with a business date and some text. -/
def dated (id version date text : String) : Entry :=
  .entity id version (.ofList [("bizDate", date), ("someString", text)])

/-- Four entities over two days, of which the first and the last are alike. -/
def standard : SampleScan :=
  ⟨[dated "id1" "vsn1" "2009-06-06T12:45:12.000Z" "a",
    dated "id2" "vsn2" "2009-06-07T10:15:00.000Z" "b",
    dated "id3" "vsn3" "2009-06-06T13:45:12.000Z" "c",
    dated "id4" "vsn4" "2009-06-06T14:45:12.000Z" "a"]⟩

/-- Entities without attributes, from their ids and versions. -/
def ofPairs (pairs : List (String × String)) : SampleScan :=
  ⟨pairs.map fun x => .entity x.1 x.2 .empty⟩

/-- Days of the business date, and only those. -/
def dailyOnly : List Aggregation := [⟨"bizDate", .date .daily, none⟩]

/-- Days of the business date, and the text as it is. -/
def dailyAndByName : List Aggregation :=
  [⟨"bizDate", .date .daily, none⟩, ⟨"someString", .byName, none⟩]

/-- The digests of the sample with MD5, in a given order of ids. -/
def digestWith (sample : SampleScan) (aggregations : List Aggregation) (collation : Collation) :
    Except DigestError (List Entry) :=
  match Scan.start aggregations collation with
  | .error error => .error (.setup error)
  | .ok s =>
    match s.addAll sample.entries with
    | .error error => .error (.scan error)
    | .ok s => .ok s.digests

/-- What `digestWith` reports. -/
def events (sample : SampleScan) (aggregations : List Aggregation) (collation : Collation) :
    List Event :=
  match Scan.start aggregations collation with
  | .error _ => []
  | .ok s => s.digestEvents sample.entries

/-- The digests of the sample with MD5 in octet order of ids. -/
def digest (sample : SampleScan) (aggregations : List Aggregation) :
    Except DigestError (List Entry) :=
  sample.digestWith aggregations .ascii

end SampleScan

end BucketDigest
