import BucketDigest.Json.Number
import BucketDigest.Json.Text

/-!
# Values that were not expected

Tells what a value is. Words, numbers and texts are read to their end, and may turn out to be
malformed; of a list or an object only the opening bracket is looked at.
-/
namespace BucketDigest.Json

/-- The value that starts with the octet `b`, and the octets after it, or after its opening
bracket. -/
def readFound (e : Ending) (b : UInt8) (s : List UInt8) : Except Fault (Found × List UInt8) :=
  if b = octet 'n' then (readWord e ['u', 'l', 'l'] s).map fun s => (.null, s)
  else if b = octet 't' then (readWord e ['r', 'u', 'e'] s).map fun s => (.boolean true, s)
  else if b = octet 'f' then (readWord e ['a', 'l', 's', 'e'] s).map fun s => (.boolean false, s)
  else if b = octet '"' then (readQuoted e s).map fun (text, s) => (.text text, s)
  else if b = octet '[' then .ok (.list, s)
  else if b = octet '\x7b' then .ok (.object, s)
  else
    let number :=
      if b = octet '-' then readNumber e true s
      else if isDigit b then readNumber e false (b :: s)
      else .error (.malformed .expectedValue)
    number.map fun (n, s) =>
      match n with
      | .integer value => (.integer value, s)
      | .float value => (.float value, s)

/-- The fault of a value, starting with the octet `b`, where another kind is expected. -/
def wrongType (e : Ending) (expected : String) (b : UInt8) (s : List UInt8) : Fault :=
  match readFound e b s with
  | .ok (found, _) => .unfit (.wrongType found expected)
  | .error fault => fault

end BucketDigest.Json
