import BucketDigest.Request.Selection
import BucketDigest.Wire.Reading
import BucketDigest.Wire.Writing

/-!
# Digesters

A digester holds what two participants agree on, and digests any number of scans with it, each on
its own. The settings may ask for the order of a collator, which is therefore given to each scan.

* `Digester.digest` turns entries into digests.
* `Digester.digestDocument` reads the entries from a document and writes the digests as one.
-/
namespace BucketDigest

open Request Wire

/-- Why a scan cannot be digested from end to end. -/
inductive DigestError
  | scan (error : ScanError)
  | setup (error : SetupError)
  | request (error : RequestError)
  | wire (error : WireError)
  deriving DecidableEq

/-- The wording of an error. -/
def DigestError.message : DigestError → String
  | .scan error => "scan error: " ++ error.message
  | .setup error => "configuration error: " ++ error.message
  | .request error => "request error: " ++ error.message
  | .wire error => "wire error: " ++ error.message

/-- Settings and aggregations. -/
structure Digester where
  settings : Settings
  aggregations : List Aggregation
  deriving DecidableEq

namespace Digester

/-- The digester that parameters ask for, where `declared` lists the attributes that there are and
their types. An attribute that no parameter mentions is not aggregated. -/
def ofRequest (p : ParameterSource) (declared : List (String × AttributeType))
    (settings : Settings) : Except DigestError Digester :=
  match (Selection.addAll declared).run (.start p) with
  | .error error _ => .error (.request error)
  | .ok _ selection => .ok ⟨settings, selection.chosen⟩

/-- What `ofRequest` reports. -/
def requestEvents (p : ParameterSource) (declared : List (String × AttributeType)) : List Event :=
  (Selection.start p).addAllEvents declared

/-- A scan that has seen nothing. -/
def scan (d : Digester) (collator : Collator) : Except DigestError Scan :=
  match Scan.ofSettings collator d.aggregations d.settings with
  | .error error => .error (.setup error)
  | .ok s => .ok s

/-- The digests of entries, unless one of them is refused. -/
def digest (d : Digester) (collator : Collator) (entries : List Entry) :
    Except DigestError (List Entry) :=
  match d.scan collator with
  | .error error => .error error
  | .ok s =>
    match s.addAll entries with
    | .error error => .error (.scan error)
    | .ok s => .ok s.digests

/-- What `digest` reports. -/
def digestEvents (d : Digester) (collator : Collator) (entries : List Entry) : List Event :=
  match d.scan collator with
  | .error _ => []
  | .ok s => .scanStarted d.aggregations.length d.settings :: s.digestEvents entries

/-- Reads entries, digests them and writes the digests, of which the number is given. Nothing is
written before all of that is known to succeed but the writing itself. -/
def digestDocument (d : Digester) (collator : Collator) (source : Json.Source) (sink : Sink) :
    Delivery DigestError Nat :=
  match (readEntries .cleanId source).outcome with
  | .error error => ⟨[], .error (.wire error)⟩
  | .ok entries =>
    match d.digest collator entries with
    | .error error => ⟨[], .error error⟩
    | .ok digests =>
      let delivery := deliver sink digests
      ⟨delivery.written,
        match delivery.outcome with
        | .error error => .error (.wire error)
        | .ok () => .ok digests.length⟩

/-- What `digestDocument` reports. -/
def documentEvents (d : Digester) (collator : Collator) (source : Json.Source) : List Event :=
  let reading := readEntries .cleanId source
  reading.entriesEvents ++
    match reading.outcome with
    | .error _ => []
    | .ok entries => d.digestEvents collator entries

end Digester

end BucketDigest
