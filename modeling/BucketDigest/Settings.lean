import BucketDigest.Algorithm
import BucketDigest.Collation

/-!
# Settings

What both sides of a comparison have to agree on besides the aggregations.
-/
namespace BucketDigest

/-- The order of ids and the hash function. -/
structure Settings where
  collation : CollationKind
  algorithm : Algorithm
  deriving DecidableEq

/-- Octet order and MD5. -/
def Settings.default : Settings := ⟨.ascii, .md5⟩

end BucketDigest
