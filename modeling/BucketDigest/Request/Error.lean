import BucketDigest.SetupError
import BucketDigest.Text.Quoted

/-!
# Errors of a request

Why parameters cannot be turned into aggregations.
-/
namespace BucketDigest

/-- Why parameters cannot be turned into aggregations. -/
inductive RequestError
  | setup (attr : String) (error : SetupError)
  | invalidOffset (attr value : String)
  | unknownType (name : String)
  deriving DecidableEq

/-- The wording of an error. -/
def RequestError.message : RequestError → String
  | .setup attr error => "invalid aggregation for " ++ attr ++ ": " ++ error.message
  | .invalidOffset attr value =>
    "invalid offset " ++ Text.quoted value ++ " for attribute " ++ attr
  | .unknownType name => "unknown attribute type: " ++ name

end BucketDigest
