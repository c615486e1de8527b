import BucketDigest.Entry
import BucketDigest.Wire.Error

/-!
# Vetting entries

A validator looks at each entry as soon as it has been read and may refuse it, which ends the
reading.
-/
namespace BucketDigest.Wire

/-- Refuses an entry with an error of its own, or lets it pass. -/
abbrev Validator := Entry → Except WireError Unit

/-- Whether a character is a control character: below the space, the delete character, or one of the
thirty-two after it. -/
def isControl (c : Char) : Bool :=
  c.toNat < 0x20 || (0x7F ≤ c.toNat && c.toNat ≤ 0x9F)

/-- What is wrong with an id, if anything is. -/
def idFlaw? (id : String) : Option String :=
  if id = "" then some "empty id"
  else if id.toList.any isControl then some "id contains control characters"
  else none

namespace Validator

/-- Lets every entry pass. -/
def acceptAll : Validator := fun _ => .ok ()

/-- Refuses ids that are empty or hold control characters. An entry without an id passes. -/
def cleanId : Validator := fun e =>
  match e.id.bind idFlaw? with
  | none => .ok ()
  | some reason => .error (.rejected e.id reason)

end Validator

end BucketDigest.Wire
