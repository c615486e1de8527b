import BucketDigest.Decimal.Shortest
import BucketDigest.Text.Quoted
import BucketDigest.Time.Rfc3339

/-!
# What can go wrong with a document

A document may be cut off, not be JSON, or be JSON that does not fit what is read from it; and the
device that it comes from or goes to may fail.
-/
namespace BucketDigest.Json

/-- Where a document is cut off. -/
inductive Place
  | value
  | list
  | object
  | text
  deriving DecidableEq

/-- The wording of a place. -/
def Place.name : Place → String
  | .value => "a value"
  | .list => "a list"
  | .object => "an object"
  | .text => "a string"

/-- What is not JSON. -/
inductive Flaw
  | expectedValue
  | expectedIdent
  | expectedColon
  | expectedCommaOrBracket
  | expectedCommaOrBrace
  | trailingComma
  | trailingCharacters
  | keyNotText
  | invalidNumber
  | numberOutOfRange
  | invalidEscape
  | brokenEscape
  | loneSurrogate
  | invalidCodePoint
  | controlCharacter
  deriving DecidableEq

/-- The wording of a flaw. -/
def Flaw.message : Flaw → String
  | .expectedValue => "expected value"
  | .expectedIdent => "expected ident"
  | .expectedColon => "expected `:`"
  | .expectedCommaOrBracket => "expected `,` or `]`"
  | .expectedCommaOrBrace => "expected `,` or `\x7d`"
  | .trailingComma => "trailing comma"
  | .trailingCharacters => "trailing characters"
  | .keyNotText => "key must be a string"
  | .invalidNumber => "invalid number"
  | .numberOutOfRange => "number out of range"
  | .invalidEscape => "invalid escape"
  | .brokenEscape => "unexpected end of hex escape"
  | .loneSurrogate => "lone leading surrogate in hex escape"
  | .invalidCodePoint => "invalid unicode code point"
  | .controlCharacter => "control character (\\u0000-\\u001F) found while parsing a string"

/-- A value that is not of the kind that was expected. -/
inductive Found
  | null
  | boolean (value : Bool)
  | integer (value : Int)
  | float (value : Decimal.Binary64)
  | text (value : String)
  | list
  | object
  deriving DecidableEq

/-- Floating-point numbers in messages: positional from `0.00001` to below `10 ^ 16`, and with an
exponent outside. -/
def floatLayout : Decimal.Layout := ⟨-5, 15⟩

/-- The wording of a value. -/
def Found.name : Found → String
  | .null => "null"
  | .boolean value => "boolean `" ++ (if value then "true" else "false") ++ "`"
  | .integer value => "integer `" ++ Numeral.integerText value ++ "`"
  | .float value => "floating point `" ++ String.ofList (floatLayout.shortest value) ++ "`"
  | .text value => "string " ++ Text.quoted value
  | .list => "sequence"
  | .object => "map"

/-- How JSON does not fit what is read from it. -/
inductive Misfit
  | wrongType (found : Found) (expected : String)
  | missingField (name : String)
  | duplicateField (name : String)
  | wrongLength (length : Nat) (expected : String)
  | unknownVariant (name first second : String)
  | timestamp (fault : Time.Rfc3339.Fault)
  deriving DecidableEq

/-- The wording of a misfit. -/
def Misfit.message : Misfit → String
  | .wrongType found expected => "invalid type: " ++ found.name ++ ", expected " ++ expected
  | .missingField name => "missing field `" ++ name ++ "`"
  | .duplicateField name => "duplicate field `" ++ name ++ "`"
  | .wrongLength length expected =>
    "invalid length " ++ Numeral.countText length ++ ", expected " ++ expected
  | .unknownVariant name first second =>
    "unknown variant `" ++ name ++ "`, expected `" ++ first ++ "` or `" ++ second ++ "`"
  | .timestamp fault => fault.message

/-- What went wrong with a document. -/
inductive Fault
  | device (reason : String)
  | cutOff (place : Place)
  | malformed (flaw : Flaw)
  | unfit (misfit : Misfit)
  deriving DecidableEq

/-- The wording of a fault. -/
def Fault.message : Fault → String
  | .device reason => reason
  | .cutOff place => "EOF while parsing " ++ place.name
  | .malformed flaw => flaw.message
  | .unfit misfit => misfit.message

end BucketDigest.Json
