import BucketDigest.Aggregation.Label
import BucketDigest.Text.Quoted

/-!
# Errors of a scan

Why an entry is refused.
-/
namespace BucketDigest

/-- Why an entry is refused. -/
inductive ScanError
  | outOfOrder (previous current : String)
  | alreadyRead
  | malformedValue (attr value : String) (reason : LabelError)
  | missingAttribute (attr : String)
  deriving DecidableEq

/-- The wording of an error. -/
def ScanError.message : ScanError → String
  | .outOfOrder previous current =>
    "entity id " ++ Text.quoted current ++ " is out of order: previous id was " ++
      Text.quoted previous
  | .alreadyRead => "cannot add entries once digests have been read: buckets are sealed"
  | .malformedValue attr value reason =>
    "malformed value " ++ Text.quoted value ++ " for attribute " ++ attr ++ ": " ++ reason.message
  | .missingAttribute attr => "entry has no value for aggregated attribute " ++ attr

end BucketDigest
