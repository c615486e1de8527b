import BucketDigest.Event
import BucketDigest.Numeral

/-!
# Golden vectors

Known digests of known versions. A participant that computes all of them joins and hashes versions
as every other does: in order of arrival and with nothing in between.

* `GoldenVector.computed` is the digest of one bucket that holds the versions.
-/
namespace BucketDigest

/-- Versions in order of arrival and the digest they have to give. -/
structure GoldenVector where
  name : String
  algorithm : Algorithm
  versions : List String
  expected : String
  deriving DecidableEq

/-- A vector whose digest comes out differently. -/
structure Mismatch where
  vector : String
  expected : String
  actual : String
  deriving DecidableEq

/-- The wording of a mismatch. -/
def Mismatch.message (m : Mismatch) : String :=
  m.vector ++ ": expected " ++ m.expected ++ ", got " ++ m.actual

namespace GoldenVector

/-- The id of the entry at an index, in at least four digits. -/
def entryId (index : Nat) : String :=
  "id" ++ String.ofList (Numeral.padded 4 index)

/-- The entries that carry the versions. -/
def entries (v : GoldenVector) : List Entry :=
  v.versions.mapIdx fun index version => .entity (entryId index) version .empty

/-- A scan without aggregations. -/
def scan (v : GoldenVector) : Except SetupError Scan :=
  (Scan.start [] .ascii).map fun s => s.withAlgorithm v.algorithm

/-- The digest of the versions; empty if there is no version or an id is refused. -/
def computed (v : GoldenVector) : String :=
  match v.scan with
  | .error _ => ""
  | .ok s =>
    match s.addAll v.entries with
    | .error _ => ""
    | .ok s => (s.digests.head?.map Entry.version).getD ""

/-- What `computed` reports. -/
def events (v : GoldenVector) : List Event :=
  match v.scan with
  | .error _ => []
  | .ok s => s.digestEvents v.entries

/-- Whether the digest comes out as expected. -/
def verify (v : GoldenVector) : Except Mismatch Unit :=
  if v.computed = v.expected then .ok () else .error ⟨v.name, v.expected, v.computed⟩

/-- The vectors that every participant has to compute. -/
def all : List GoldenVector :=
  [⟨"md5 single token", .md5, ["abc"], "900150983cd24fb0d6963f7d28e17f72"⟩,
    ⟨"md5 split token", .md5, ["a", "bc"], "900150983cd24fb0d6963f7d28e17f72"⟩,
    ⟨"md5 vsn1 then vsn4", .md5, ["vsn1", "vsn4"], "41c4be4aae2f76c3b47c524551185451"⟩,
    ⟨"md5 vsn2", .md5, ["vsn2"], "8b5452fe0b023c8644913c1ebaccf310"⟩,
    ⟨"md5 vsn3", .md5, ["vsn3"], "61a4baa903997e9d7119df2d4df9e436"⟩,
    ⟨"md5 four tokens", .md5, ["vsn1", "vsn2", "vsn3", "vsn4"],
      "4089efa39ff1f3722ab57b41c5dfa38e"⟩,
    ⟨"blake3 single token", .blake3, ["abc"],
      "6437b3ac38465133ffb63b75273a8db548c558465d79db03fd359c6cd5bd9d85"⟩,
    ⟨"blake3 vsn1 then vsn4", .blake3, ["vsn1", "vsn4"],
      "1670a482b6f8e4aa922bd4a20892e846c44c778d91550f92f131498947ae1161"⟩,
    ⟨"blake3 vsn2", .blake3, ["vsn2"],
      "cbeec73e9cf032a90054c23aab2744c773d1fd36c49314af6d3835d24a3e92be"⟩]

/-- Every vector that comes out differently. -/
def mismatches (vectors : List GoldenVector) : List Mismatch :=
  vectors.filterMap fun v =>
    match v.verify with
    | .ok () => none
    | .error mismatch => some mismatch

end GoldenVector

end BucketDigest
