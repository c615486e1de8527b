import BucketDigest.Json.Writer
import BucketDigest.Text.Utf8
import BucketDigest.Time.Format
import BucketDigest.Wire.Validator

/-!
# Writing collections

A collection is written as a list of objects. The members of an entry come in the order `id`,
`version`, `lastUpdated`, `attributes`, and attributes in the order of their names. What an entry
does not have is left out, and so are attributes if there are none.

* `entriesText` is the text in either style.
* `deliver` writes the compact text to a sink that may fail.
-/
namespace BucketDigest.Wire

open Json

/-! ## Texts -/

/-- Attributes as an object that stands inside `depth` brackets. -/
def attributesText (style : Style) (depth : Nat) (a : Attributes) : List Char :=
  style.bracket depth '\x7b' '\x7d' (a.entries.map fun x => style.member x.1 (textLiteral x.2))

/-- The members of an entry. -/
def entryMembers (style : Style) (depth : Nat) (e : Entry) : List (List Char) :=
  (e.id.map fun id => style.member "id" (textLiteral id)).toList ++
    [style.member "version" (textLiteral e.version)] ++
    (e.lastUpdated.map fun t =>
      style.member "lastUpdated" (textLiteral (String.ofList t.text))).toList ++
    if e.attributes.isEmpty then []
    else [style.member "attributes" (attributesText style (depth + 1) e.attributes)]

/-- An entry as an object that stands inside `depth` brackets. -/
def entryText (style : Style) (depth : Nat) (e : Entry) : List Char :=
  style.bracket depth '\x7b' '\x7d' (entryMembers style depth e)

/-- Entries as a list. -/
def entriesText (style : Style) (entries : List Entry) : List Char :=
  style.bracket 0 '[' ']' (entries.map (entryText style 1))

/-- Entries as a list in the compact style. -/
def queryResult (entries : List Entry) : String :=
  String.ofList (entriesText .compact entries)

/-- Entries as an indented list. -/
def indentedResult (entries : List Entry) : String :=
  String.ofList (entriesText .indented entries)

/-! ## Sinks -/

/-- Where octets are written to. A limited sink takes what fits and then fails. -/
inductive Sink
  | unlimited
  | limited (capacity : Nat) (reason : String)

namespace Sink

/-- The octets that a sink takes of those that it is given. -/
def taken : Sink → List UInt8 → List UInt8
  | .unlimited, s => s
  | .limited capacity _, s => s.take capacity

/-- The error of writing octets, if they are too many. -/
def failure? : Sink → List UInt8 → Option WireError
  | .unlimited, _ => none
  | .limited capacity reason, s =>
    if s.length ≤ capacity then none else some (.json (.device reason))

end Sink

/-- The octets that a sink has taken, and how the writing ended. -/
structure Delivery (ε α : Type) where
  written : List UInt8
  outcome : Except ε α

/-- Writes entries to a sink in the compact style. -/
def deliver (sink : Sink) (entries : List Entry) : Delivery WireError Unit :=
  let octets := Text.bytes (queryResult entries)
  ⟨sink.taken octets,
    match sink.failure? octets with
    | none => .ok ()
    | some error => .error error⟩

end BucketDigest.Wire
