import BucketDigest.Attributes
import BucketDigest.Time.Timestamp

/-!
# Entries

The unit of input and output of a scan. An entity has an id; an aggregate has none, and carries
the digest of a bucket as its version and the labels of the bucket as its attributes.
-/
namespace BucketDigest

/-- One entry of a scan or of its digests. -/
@[ext]
structure Entry where
  id : Option String
  version : String
  lastUpdated : Option Time.Timestamp
  attributes : Attributes
  deriving DecidableEq

namespace Entry

/-- An entity. -/
def entity (id version : String) (attributes : Attributes) : Entry :=
  ⟨some id, version, none, attributes⟩

/-- The digest of a bucket. -/
def aggregate (digest : String) (labels : Attributes) : Entry :=
  ⟨none, digest, none, labels⟩

/-- Whether this is an aggregate. -/
def isAggregate (e : Entry) : Bool := e.id.isNone

/-- The digest that an aggregate carries. -/
def digest? (e : Entry) : Option String :=
  if e.isAggregate then some e.version else none

/-- The value of an attribute. -/
def get? (e : Entry) (attr : String) : Option String := e.attributes.get? attr

end Entry

end BucketDigest
