import BucketDigest.Text.Blank
import BucketDigest.Text.Property

/-!
# Quoted text in diagnostics

Messages show a text between double quotes so that it stays on one line and every character can be
told: quotes and backslashes are escaped, tab, newline, carriage return and NUL have short forms,
and a character that is unprintable, is shown as nothing or joins its neighbour is written by its
code point.
-/
namespace BucketDigest.Text

/-- The code point of a character in lower-case hexadecimal, between braces. -/
def codePointEscape (c : Char) : List Char :=
  ['\\', 'u', '\x7b'] ++ Nat.toDigits 16 c.toNat ++ ['\x7d']

/-- Whether a character is spelled out by its code point. -/
def isSpelledOut (c : Char) : Bool :=
  !(0x20 ≤ c.toNat && c.toNat < 0x7F) &&
    (inRanges extendingMarks c || inRanges fillers c || inRanges unprintable c)

/-- One character of a quoted text. -/
def quoteChar (c : Char) : List Char :=
  if c = '"' then ['\\', '"']
  else if c = '\\' then ['\\', '\\']
  else if c = '\t' then ['\\', 't']
  else if c = '\r' then ['\\', 'r']
  else if c = '\n' then ['\\', 'n']
  else if c = '\x00' then ['\\', '0']
  else if isSpelledOut c then codePointEscape c
  else [c]

/-- A text as diagnostics show it. -/
def quoted (s : String) : String :=
  String.ofList ('"' :: s.toList.flatMap quoteChar ++ ['"'])

/-- An optional text as diagnostics show it. -/
def quotedOption : Option String → String
  | none => "None"
  | some s => "Some(" ++ quoted s ++ ")"

end BucketDigest.Text
