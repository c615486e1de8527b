/-!
# Canonical decomposition

Writes characters with marks as a letter and its marks, and puts the marks of one letter into a
fixed order, so that texts which differ only in this become equal.

The table covers the letters of `Collation.Weights`; syllables of Hangul follow their arithmetic.
-/
namespace BucketDigest.Collation

/-- Characters that are written as a base character and the same marks: each character of
`composed` is the character at its place in `bases`, followed by `marks`. -/
structure Composition where
  marks : String
  composed : String
  bases : String

/-- The characters with a canonical decomposition, by their marks. -/
def compositions : List Composition :=
  [⟨"",
      "\u037E\u1FBE\u1FEF\u2126\u212A",
      ";ι`ΩK"⟩,
    ⟨"\u0301",
      "ÁÉÍÓÚÝáéíóúýĆćĹĺŃńŔŕŚśŹźǴǵǽǿΆΈΉΊΌΎΏάέήίόύώЃЌѓќḰḱḾḿṔṕẂẃ\u1F71\u1F73\u1F75" ++
        "\u1F77\u1F79\u1F7B\u1F7D\u1FBB\u1FC9\u1FCB\u1FDB\u1FEB\u1FF9\u1FFB",
      "AEIOUYaeiouyCcLlNnRrSsZzGgæøΑΕΗΙΟΥΩαεηιουωГКгкKkMmPpWwαεηιουωΑΕΗΙΥΟΩ"⟩,
    ⟨"\u0301\u0307",
      "Ṥṥ",
      "Ss"⟩,
    ⟨"\u0302",
      "ÂÊÎÔÛâêîôûĈĉĜĝĤĥĴĵŜŝŴŵŶŷẐẑ",
      "AEIOUaeiouCcGgHhJjSsWwYyZz"⟩,
    ⟨"\u0302\u0301",
      "ẤấẾếỐố",
      "AaEeOo"⟩,
    ⟨"\u0302\u0303",
      "ẪẫỄễỖỗ",
      "AaEeOo"⟩,
    ⟨"\u0303",
      "ÃÑÕãñõĨĩŨũṼṽẼẽỸỹ",
      "ANOanoIiUuVvEeYy"⟩,
    ⟨"\u0303\u0301",
      "ṌṍṸṹ",
      "OoUu"⟩,
    ⟨"\u0303\u0308",
      "Ṏṏ",
      "Oo"⟩,
    ⟨"\u0307",
      "ĊċĖėĠġİŻżȦȧȮȯḂḃḊḋḞḟḢḣṀṁṄṅṖṗṘṙṠṡṪṫẆẇẊẋẎẏ",
      "CcEeGgIZzAaOoBbDdFfHhMmNnPpRrSsTtWwXxYy"⟩,
    ⟨"\u0308",
      "ÄËÏÖÜäëïöüÿŸΪΫϊϋЁёӒӓӜӝӞӟӤӥӦӧӬӭӰӱӴӵӸӹḦḧẄẅẌẍẗ",
      "AEIOUaeiouyYΙΥιυЕеАаЖжЗзИиОоЭэУуЧчЫыHhWwXxt"⟩,
    ⟨"\u0308\u0301",
      "ǗǘΐΰḮḯ\u1FD3\u1FE3",
      "UuιυIiιυ"⟩,
    ⟨"\u030A",
      "ÅåŮůẘẙ\u212B",
      "AaUuwyA"⟩,
    ⟨"\u030A\u0301",
      "Ǻǻ",
      "Aa"⟩,
    ⟨"\u0323",
      "ḄḅḌḍḤḥḲḳḶḷṂṃṆṇṚṛṢṣṬṭṾṿẈẉẒẓẠạẸẹỊịỌọỤụỴỵ",
      "BbDdHhKkLlMmNnRrSsTtVvWwZzAaEeIiOoUuYy"⟩,
    ⟨"\u0323\u0302",
      "ẬậỆệỘộ",
      "AaEeOo"⟩,
    ⟨"\u0323\u0307",
      "Ṩṩ",
      "Ss"⟩,
    ⟨"\u0338",
      "≠≮≯",
      "=<>"⟩]

/-- Marks that stand for other marks. -/
def markDecomposition? (c : Char) : Option (List Char) :=
  if c = '\u0341' then some ['\u0301']
  else if c = '\u0344' then some ['\u0308', '\u0301']
  else none

/-- The letters of a Hangul syllable: a leading consonant, a vowel, and a final consonant if the
syllable has one. -/
def syllable? (c : Char) : Option (List Char) :=
  if 0xAC00 ≤ c.toNat ∧ c.toNat ≤ 0xD7A3 then
    let i := c.toNat - 0xAC00
    let leading := Char.ofNat (0x1100 + i / 588)
    let vowel := Char.ofNat (0x1161 + i % 588 / 28)
    if i % 28 = 0 then some [leading, vowel]
    else some [leading, vowel, Char.ofNat (0x11A7 + i % 28)]
  else none

/-- The character of `bases` at the place where `c` stands in `composed`. -/
def baseOf? (c : Char) : List Char → List Char → Option Char
  | x :: composed, b :: bases => if c = x then some b else baseOf? c composed bases
  | _, _ => none

/-- Looks a character up among compositions. -/
def letter? (c : Char) : List Composition → Option (List Char)
  | [] => none
  | k :: rest =>
    match baseOf? c k.composed.toList k.bases.toList with
    | some b => some (b :: k.marks.toList)
    | none => letter? c rest

/-- The characters that a character is written as. -/
def decompose (c : Char) : List Char :=
  if c.toNat < 0x80 then [c]
  else ((markDecomposition? c).or ((syllable? c).or (letter? c compositions))).getD [c]

/-- The combining class of a mark; 0 for a character that starts a letter. -/
def combiningClass (c : Char) : Nat :=
  if c = '\u0338' then 1
  else if c = '\u0323' then 220
  else if c ∈ ['\u0301', '\u0302', '\u0303', '\u0307', '\u0308', '\u030A'] then 230
  else 0

/-- Puts a character before ordered ones, a mark behind the marks of a lower class. -/
def putMark (c : Char) : List Char → List Char
  | [] => [c]
  | d :: rest =>
    if 0 < combiningClass d ∧ combiningClass d < combiningClass c then d :: putMark c rest
    else c :: d :: rest

/-- The marks of each letter in the order of their classes, those of one class as they stood. -/
def orderMarks (cs : List Char) : List Char :=
  cs.foldr putMark []

/-- The canonical decomposition of a text. -/
def canonical (s : String) : List Char :=
  orderMarks (s.toList.flatMap decompose)

end BucketDigest.Collation
