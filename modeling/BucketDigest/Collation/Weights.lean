import BucketDigest.Collation.Decomposition

/-!
# Collation by weights

A small order that can serve as a collator. Texts are compared by three levels of weights: letters
first, then marks, then case. A difference counts only where all weights of the levels before it
agree.

* `weigh`: the weights of a character. Letters have all three; a mark has no letter weight; an
  ignored character has none at all.
* `Key`: the weights of a text, level by level.
* `byWeights`: the order.

The weights are those of the characters of `alphabet` and `marks` only. Every other character
follows the alphabet by its code point, which is not its place in the Unicode Collation Algorithm,
so the order is no substitute for a library's on ids that have such characters.
-/
namespace BucketDigest.Collation

/-- Characters that stand for themselves. -/
def alone (s : String) : List (List Char) :=
  s.toList.map fun c => [c]

/-- Neighbours that differ only in case. -/
def paired : List Char → List (List Char)
  | lower :: upper :: rest => [lower, upper] :: paired rest
  | rest => rest.map fun c => [c]

/-- The letters with a place of their own, in ascending order; the members of a group ascend at the
level of case. -/
def alphabet : List (List Char) :=
  alone " _-,;:!?.'\"()[]\x7b\x7d@*/\\&#%`^+<=>|~😀😁$0123456789" ++
    paired "aAbBcCdDeEfFgGhHiIjJkKlLmMnNoOpPqQrRsStTuUvVwWxXyYzZþÞ".toList ++
    paired "αΑβΒγΓδΔεΕζΖηΗθΘιΙκΚλΛμΜνΝξΞοΟπΠρΡσΣτΤυΥφΦχΧψΨωΩ".toList ++
    paired "аАбБвВгГдДеЕжЖзЗиИйЙкКлЛмМнНоОпПрРсСтТуУфФхХцЦчЧшШщЩъЪыЫьЬэЭюЮяЯ".toList ++
    (List.range 256).map (fun i => [Char.ofNat (0x1100 + i)]) ++
    paired "あアいイ".toList ++ alone "𐀀"

/-- The marks, from light to heavy. -/
def marks : List Char :=
  ['\u0301', '\u0302', '\u030A', '\u0308', '\u0303', '\u0307', '\u0338', '\u0323']

/-- The weights of one element of a text; an element without a letter weight is a mark. -/
structure Weight where
  letter : Option Nat
  mark : Nat
  case : Nat

/-- The group of a character and its place there, where groups are counted from `i`. -/
def place? (c : Char) (i : Nat) : List (List Char) → Option (Nat × Nat)
  | [] => none
  | group :: rest =>
    match group.idxOf? c with
    | some j => some (i, j)
    | none => place? c (i + 1) rest

/-- Whether a character carries no weight: the controls that are no white space. -/
def isIgnored (c : Char) : Bool :=
  c.toNat < 0x09 || (0x0E ≤ c.toNat && c.toNat < 0x20) || (0x7F ≤ c.toNat && c.toNat < 0x85) ||
    (0x86 ≤ c.toNat && c.toNat < 0xA0)

/-- A letter outside the alphabet follows it by code point; U+FFFF comes last of all. -/
def weightOutside (c : Char) : Nat :=
  alphabet.length + if c = '\uFFFF' then 0x110000 else c.toNat

/-- The weight of a character that is neither ignored nor a mark. -/
def weighLetter (c : Char) : Weight :=
  match place? c 0 alphabet with
  | some (i, j) => ⟨some i, 0, j⟩
  | none => ⟨some (weightOutside c), 0, 0⟩

/-- The mark of a variant form of a letter, heavier than every other mark. -/
def variant : Weight := ⟨none, marks.length + 1, 0⟩

/-- The weight of a mark, given its place among `marks`. -/
def weighMark (i : Nat) : Weight := ⟨none, i + 1, 0⟩

/-- The elements that a character stands for. Ligatures weigh as their letters with the mark of a
variant between them. -/
def weigh (c : Char) : List Weight :=
  if isIgnored c then []
  else if c = 'ð' then [weighLetter 'd', variant]
  else if c = 'æ' then [weighLetter 'a', variant, weighLetter 'e']
  else if c = 'ß' then [weighLetter 's', variant, weighLetter 's']
  else if c = 'ø' then weighLetter 'o' :: (marks.idxOf? '\u0338').toList.map weighMark
  else
    match marks.idxOf? c with
    | some i => [weighMark i]
    | none => [weighLetter c]

/-- The weights of a text, level by level. -/
structure Key where
  letters : List Nat
  marks : List Nat
  cases : List Nat

/-- The weights of a text. -/
def key (s : String) : Key :=
  let elements := (canonical s).flatMap weigh
  { letters := elements.filterMap Weight.letter
    marks := elements.map Weight.mark
    cases := elements.map Weight.case }

/-- Compares keys by letters, then by marks, then by case. -/
def Key.compare (a b : Key) : Ordering :=
  ((List.compareLex Ord.compare a.letters b.letters).then
    (List.compareLex Ord.compare a.marks b.marks)).then
      (List.compareLex Ord.compare a.cases b.cases)

/-- Compares texts by their weights. -/
def byWeights (a b : String) : Ordering := (key a).compare (key b)

end BucketDigest.Collation
