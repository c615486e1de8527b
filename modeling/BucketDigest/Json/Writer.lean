/-!
# Writing documents

Texts between quotes, and lists and objects in a compact or an indented style.
-/
namespace BucketDigest.Json

/-- A control character by its code point in four hexadecimal digits, of which only the last two
can differ from zero. -/
def controlEscape (c : Char) : List Char :=
  ['\\', 'u', '0', '0', Nat.digitChar (c.toNat / 16), Nat.digitChar (c.toNat % 16)]

/-- One character of a text. -/
def escape (c : Char) : List Char :=
  if c = '"' then ['\\', '"']
  else if c = '\\' then ['\\', '\\']
  else if c = '\x08' then ['\\', 'b']
  else if c = '\x0c' then ['\\', 'f']
  else if c = '\n' then ['\\', 'n']
  else if c = '\r' then ['\\', 'r']
  else if c = '\t' then ['\\', 't']
  else if c.toNat < 0x20 then controlEscape c
  else [c]

/-- A text between quotes. -/
def textLiteral (s : String) : List Char :=
  '"' :: (s.toList.flatMap escape ++ ['"'])

/-- How the parts of a document are set apart. -/
structure Style where
  lineBreak : Nat → List Char
  afterColon : List Char

namespace Style

/-- Nothing between the parts. -/
def compact : Style := ⟨fun _ => [], []⟩

/-- Each element and each member on a line of its own, indented by two spaces for each bracket
around it. -/
def indented : Style := ⟨fun depth => '\n' :: List.replicate (2 * depth) ' ', [' ']⟩

/-- Parts between brackets, which stand inside `depth` other brackets. -/
def bracket (style : Style) (depth : Nat) (opening closing : Char) (parts : List (List Char)) :
    List Char :=
  if parts = [] then [opening, closing]
  else
    opening :: ([','].intercalate (parts.map fun part => style.lineBreak (depth + 1) ++ part) ++
      style.lineBreak depth ++ [closing])

/-- A member of an object. -/
def member (style : Style) (key : String) (value : List Char) : List Char :=
  textLiteral key ++ ':' :: (style.afterColon ++ value)

end Style

end BucketDigest.Json
