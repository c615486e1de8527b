import BucketDigest.Scan

/-!
# Events

What a scan and the work around it report while they run, each with a level and a wording.
-/
namespace BucketDigest

/-- How much an event matters. -/
inductive Level
  | debug
  | info
  | warn
  deriving DecidableEq

/-- The name of a level. -/
def Level.name : Level → String
  | .debug => "debug"
  | .info => "info"
  | .warn => "warn"

/-- Something worth reporting. -/
inductive Event
  | aggregationAdded (aggregation : Aggregation)
  | alreadyAggregated (attr : String)
  | idRefused (previous current collation : String)
  | scanSealed (buckets entries : Nat)
  | scanStarted (aggregations : Nat) (settings : Settings)
  | queryResultRead (entries : Nat)
  | entriesRead (entries : Nat)
  deriving DecidableEq

namespace Event

/-- How much an event matters. -/
def level : Event → Level
  | .idRefused .. => .warn
  | .queryResultRead _ => .info
  | _ => .debug

/-- The wording of an event. -/
def message : Event → String
  | .aggregationAdded a => "Adding aggregation " ++ a.describe
  | .alreadyAggregated attr => "Attribute " ++ attr ++ " already aggregated, skipping"
  | .idRefused previous current collation =>
    "Rejecting out-of-order id " ++ Text.quoted current ++ " after " ++ Text.quoted previous ++
      " (" ++ collation ++ " collation)"
  | .scanSealed buckets entries =>
    "Sealing digest builder: " ++ Numeral.countText buckets ++ " buckets from " ++
      Numeral.countText entries ++ " entries"
  | .scanStarted aggregations settings =>
    "Digesting scan with " ++ Numeral.countText aggregations ++ " aggregations (" ++
      settings.collation.name ++ " collation, " ++ settings.algorithm.name ++ ")"
  | .queryResultRead entries =>
    "Read query result with " ++ Numeral.countText entries ++ " entries"
  | .entriesRead entries => "Read " ++ Numeral.countText entries ++ " entries"

end Event

namespace Scan

/-- What is reported when entries are offered: the refusal of an id, if it comes to that. -/
def addEvents (s : Scan) (entries : List Entry) : List Event :=
  match s.addAll entries with
  | .error (.outOfOrder previous current) => [.idRefused previous current s.collation.name]
  | _ => []

/-- What is reported when the digests are read: the sealing, if it is the first time. -/
def readEvents (s : Scan) : List Event :=
  if s.isSealed then [] else [.scanSealed s.bucketCount s.entryCount]

/-- What is reported when entries are offered and, if all are taken, the digests are read. -/
def digestEvents (s : Scan) (entries : List Entry) : List Event :=
  match s.addAll entries with
  | .ok s' => s'.readEvents
  | .error _ => s.addEvents entries

end Scan

end BucketDigest
