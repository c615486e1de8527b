import BucketDigest.Json.Fault
import BucketDigest.Text.Quoted

/-!
# Errors on the wire

Why entries cannot be read or written: the document is at fault, it is no list of entries, or an
entry in it is refused.
-/
namespace BucketDigest.Wire

/-- The kinds of JSON values. -/
inductive Shape
  | null
  | boolean
  | number
  | text
  | list
  | object
  deriving DecidableEq

namespace Shape

/-- The name in messages. -/
def name : Shape → String
  | .null => "null"
  | .boolean => "boolean"
  | .number => "number"
  | .text => "string"
  | .list => "array"
  | .object => "object"

/-- The kind of a value. -/
def ofFound : Json.Found → Shape
  | .null => .null
  | .boolean _ => .boolean
  | .integer _ => .number
  | .float _ => .number
  | .text _ => .text
  | .list => .list
  | .object => .object

end Shape

/-- Why entries cannot be read or written. -/
inductive WireError
  | io (reason : String)
  | json (fault : Json.Fault)
  | expectedArray (found : Shape)
  | rejected (id : Option String) (reason : String)
  deriving DecidableEq

/-- The wording of an error. -/
def WireError.message : WireError → String
  | .io reason => "I/O error: " ++ reason
  | .json fault => "JSON error: " ++ fault.message
  | .expectedArray found => "expected a JSON array of entries, found " ++ found.name
  | .rejected id reason => "entry " ++ Text.quotedOption id ++ " rejected: " ++ reason

end BucketDigest.Wire
