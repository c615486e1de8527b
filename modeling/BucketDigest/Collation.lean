import BucketDigest.SetupError
import BucketDigest.Text.Utf8

/-!
# Collations

The order in which a scan must list its ids. Both sides of a comparison have to use the same one.

* `ascii` compares octets, so capitals come before small letters.
* `unicode` compares as a library for the Unicode Collation Algorithm does. The library is given as
  a `Collator`, and nothing here looks into its order; where a theorem needs the order to be a total
  preorder, it says so.
-/
namespace BucketDigest

/-- An order on ids. -/
structure Collation where
  name : String
  description : String
  compare : String → String → Ordering

namespace Collation

/-- The order of UTF-8 octets. -/
def ascii : Collation where
  name := "ascii"
  description := "AsciiCollation"
  compare a b := List.compareLex Ord.compare (Text.bytes a) (Text.bytes b)

/-- The order that a collator offers. -/
def unicode (compare : String → String → Ordering) : Collation where
  name := "unicode"
  description := "UnicodeCollation(root)"
  compare := compare

/-- Whether an id may follow another in a scan. -/
def inOrder (c : Collation) (previous next : String) : Bool :=
  c.compare previous next != .gt

end Collation

/-- What a library offers as the Unicode Collation Algorithm without a language of its own: an
order, or the reason why it has none. -/
abbrev Collator := Except String (String → String → Ordering)

/-- The collations that settings can name. -/
inductive CollationKind
  | ascii
  | unicode
  deriving DecidableEq

namespace CollationKind

/-- The name in settings and messages. -/
def name : CollationKind → String
  | .ascii => "ascii"
  | .unicode => "unicode"

/-- The kind that a name stands for; octet order is also called binary. -/
def ofName (name : String) : Except SetupError CollationKind :=
  if name = "ascii" ∨ name = "binary" then .ok .ascii
  else if name = "unicode" then .ok .unicode
  else .error (.unknownCollation name)

/-- The order that is meant; only Unicode order depends on the collator. -/
def build (kind : CollationKind) (collator : Collator) : Except SetupError Collation :=
  match kind with
  | .ascii => .ok .ascii
  | .unicode =>
    match collator with
    | .error reason => .error (.noCollator reason)
    | .ok compare => .ok (.unicode compare)

theorem name_of_build {kind : CollationKind} {collator : Collator} {collation : Collation}
    (h : kind.build collator = .ok collation) : collation.name = kind.name := by
  cases kind with
  | ascii => cases h; rfl
  | unicode => cases collator <;> cases h; rfl

/-- Only a collator that has no order can be in the way. -/
theorem build_eq_error_iff {kind : CollationKind} {collator : Collator} {error : SetupError} :
    kind.build collator = .error error ↔
      kind = .unicode ∧ ∃ reason, collator = .error reason ∧ error = .noCollator reason := by
  cases kind with
  | ascii => simp [build]
  | unicode => cases collator <;> simp [build, eq_comm]

@[simp] theorem ofName_name (kind : CollationKind) : ofName kind.name = .ok kind := by
  cases kind <;> rfl

end CollationKind

end BucketDigest
