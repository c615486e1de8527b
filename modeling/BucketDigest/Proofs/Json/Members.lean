import BucketDigest.Json.Members
import BucketDigest.Proofs.Json.Text

/-!
# Brackets that are read back

In either style a list or an object is written as its opening bracket, its parts and its closing
bracket with only white space between them (`Style.Blank`). `Style.body` is what follows the opening
bracket, part by part, as it is read.

* `nextElement_body` and `nextKey_body`: one step through a list or an object.
* `readText_literal`, `readOptionalText_literal`: a text as the value of an element or a member.
-/
namespace BucketDigest.Json

open Text (encode)

variable {e : Ending}

/-! ## White space -/

/-- White space and nothing else. -/
def AllSpace (s : List UInt8) : Prop := ∀ b ∈ s, isSpace b = true

/-- White space before an octet is passed over. -/
theorem next_append {sp : List UInt8} (hsp : AllSpace sp) {b : UInt8} (hb : isSpace b = false)
    (place : Place) (s : List UInt8) : next e place (sp ++ b :: s) = .ok (b, s) := by
  have hskip : skipSpace (sp ++ b :: s) = b :: s := by
    unfold skipSpace
    rw [List.dropWhile_append_of_pos hsp, List.dropWhile_cons_of_neg (by simp [hb])]
  unfold next
  rw [hskip]

theorem next_cons {b : UInt8} (hb : isSpace b = false) (place : Place) (s : List UInt8) :
    next e place (b :: s) = .ok (b, s) := by
  have hnil : AllSpace [] := nofun
  exact next_append hnil hb place s

/-! ## Styles -/

namespace Style

/-- Only white space stands between the parts. -/
structure Blank (style : Style) : Prop where
  lineBreak : ∀ depth, AllSpace (encode (style.lineBreak depth))
  afterColon : AllSpace (encode style.afterColon)

theorem blank_compact : compact.Blank := by
  constructor
  · intro depth b hb
    cases hb
  · intro b hb
    cases hb

theorem blank_indented : indented.Blank := by
  constructor
  · intro depth b hb
    obtain ⟨c, hc, hb⟩ := List.mem_flatMap.1 hb
    rcases List.mem_cons.1 hc with rfl | hc
    · rw [List.mem_singleton.1 hb]; rfl
    · rw [List.eq_of_mem_replicate hc] at hb
      rw [List.mem_singleton.1 hb]; rfl
  · intro b hb
    rw [List.mem_singleton.1 hb]; rfl

/-- What stands behind an opening bracket, or behind a part if `first` is false: the parts that are
left and the closing bracket. -/
def body (style : Style) (depth : Nat) (closing : Char) : Bool → List (List Char) → List Char
  | _, [] => style.lineBreak depth ++ [closing]
  | first, part :: rest =>
    (if first then [] else [',']) ++
      (style.lineBreak (depth + 1) ++ (part ++ body style depth closing false rest))

/-- Brackets with something between them, part by part. -/
theorem bracket_eq_body (style : Style) (depth : Nat) (opening closing : Char)
    {parts : List (List Char)} (h : parts ≠ []) :
    style.bracket depth opening closing parts =
      opening :: style.body depth closing true parts := by
  obtain ⟨part, rest, rfl⟩ := List.exists_cons_of_ne_nil h
  have hparts : ∀ part, [','].intercalate
      ((part :: rest).map fun p => style.lineBreak (depth + 1) ++ p) ++
        (style.lineBreak depth ++ [closing]) =
      style.lineBreak (depth + 1) ++ (part ++ style.body depth closing false rest) := by
    -- Behind the first part all are written alike, so the induction is on the parts behind it.
    clear h
    induction rest with
    | nil => simp [body, List.intercalate_singleton]
    | cons p rest ih =>
      intro part
      have hp := ih p
      simp only [List.map_cons, List.intercalate_cons_cons, List.append_assoc] at hp ⊢
      rw [hp]
      rfl
  unfold bracket
  rw [if_neg h, List.append_assoc, hparts part]
  rfl

end Style

/-! ## Steps -/

/-- A text between its quotes, as octets. -/
theorem encode_textLiteral (text : String) :
    encode (textLiteral text) =
      octet '"' :: (encode (text.toList.flatMap escape) ++ [octet '"']) := by
  unfold textLiteral
  rw [Text.encode_cons, Text.encode_append]
  rfl

theorem encode_member (style : Style) (key : String) (value : List Char) :
    encode (style.member key value) =
      octet '"' :: (encode (key.toList.flatMap escape) ++
        octet '"' :: octet ':' :: (encode style.afterColon ++ encode value)) := by
  unfold Style.member
  rw [Text.encode_append, encode_textLiteral, Text.encode_cons, Text.encode_append]
  simp only [List.cons_append, List.append_assoc, List.nil_append]
  rfl

section
variable (style : Style) (depth : Nat) (closing : Char) (first : Bool) (part : List Char)
  (rest : List (List Char)) (s : List UInt8)

theorem encode_bracket {opening : Char} (hopening : opening.toNat < 0x80)
    {parts : List (List Char)} (h : parts ≠ []) :
    encode (style.bracket depth opening closing parts) =
      octet opening :: encode (style.body depth closing true parts) := by
  rw [Style.bracket_eq_body style depth opening closing h, Text.encode_cons_of_ascii hopening]

theorem encode_body_nil :
    encode (style.body depth closing first []) ++ s =
      encode (style.lineBreak depth) ++ (encode [closing] ++ s) := by
  rw [Style.body, Text.encode_append, List.append_assoc]

theorem encode_body_true :
    encode (style.body depth closing true (part :: rest)) ++ s =
      encode (style.lineBreak (depth + 1)) ++
        (encode part ++ (encode (style.body depth closing false rest) ++ s)) := by
  simp only [Style.body, if_true, List.nil_append, Text.encode_append, List.append_assoc]

theorem encode_body_false :
    encode (style.body depth closing false (part :: rest)) ++ s =
      octet ',' :: (encode (style.lineBreak (depth + 1)) ++
        (encode part ++ (encode (style.body depth closing false rest) ++ s))) := by
  rw [← encode_body_true]
  rfl

end

section
variable {style : Style} (h : style.Blank) (depth : Nat) (first : Bool)
include h

/-- The closing bracket of a list. -/
theorem nextElement_body_nil (s : List UInt8) :
    nextElement e first (encode (style.body depth ']' first []) ++ s) = .ok (false, s) := by
  have hnext : next e .list (encode (style.lineBreak depth) ++ (encode [']'] ++ s)) =
      .ok (octet ']', s) := next_append (h.lineBreak depth) rfl .list s
  unfold nextElement
  rw [encode_body_nil, hnext]
  rfl

/-- One element more; what is left starts with it. -/
theorem nextElement_body {part : List Char} {b : UInt8} {t : List UInt8}
    (hpart : encode part = b :: t) (hb : isSpace b = false) (hne : b ≠ octet ']')
    (rest : List (List Char)) (s : List UInt8) :
    nextElement e first (encode (style.body depth ']' first (part :: rest)) ++ s) =
      .ok (true, encode (style.lineBreak (depth + 1)) ++
        (encode part ++ (encode (style.body depth ']' false rest) ++ s))) := by
  have hnext : ∀ place, next e place (encode (style.lineBreak (depth + 1)) ++
      (encode part ++ (encode (style.body depth ']' false rest) ++ s))) =
      .ok (b, t ++ (encode (style.body depth ']' false rest) ++ s)) := by
    intro place
    rw [hpart, List.cons_append]
    exact next_append (h.lineBreak _) hb place _
  unfold nextElement
  cases first with
  | true => simp only [encode_body_true, hnext, if_neg hne, if_true]
  | false =>
    rw [encode_body_false, next_cons rfl]
    simp only [if_neg (show octet ',' ≠ octet ']' by decide), hnext, if_neg hne, if_true]
    rfl

/-- The closing brace of an object. -/
theorem nextKey_body_nil (s : List UInt8) :
    nextKey e first (encode (style.body depth '\x7d' first []) ++ s) = .ok (none, s) := by
  have hnext : next e .object (encode (style.lineBreak depth) ++ (encode ['\x7d'] ++ s)) =
      .ok (octet '\x7d', s) := next_append (h.lineBreak depth) rfl .object s
  unfold nextKey
  rw [encode_body_nil, hnext]
  rfl

/-- One member more; what is left is its value, after the colon. -/
theorem nextKey_body (key : String) (value : List Char) (rest : List (List Char))
    (s : List UInt8) :
    nextKey e first (encode (style.body depth '\x7d' first (style.member key value :: rest)) ++ s) =
      .ok (some key, octet ':' :: (encode style.afterColon ++
        (encode value ++ (encode (style.body depth '\x7d' false rest) ++ s)))) := by
  let t := octet ':' :: (encode style.afterColon ++
    (encode value ++ (encode (style.body depth '\x7d' false rest) ++ s)))
  have hnext : ∀ place, next e place (encode (style.lineBreak (depth + 1)) ++
      (encode (style.member key value) ++ (encode (style.body depth '\x7d' false rest) ++ s))) =
      .ok (octet '"', encode (key.toList.flatMap escape) ++ octet '"' :: t) := by
    intro place
    rw [encode_member, List.cons_append, next_append (h.lineBreak _) rfl]
    simp only [List.append_assoc, List.cons_append, t]
  have hkey : readKey e (encode (key.toList.flatMap escape) ++ octet '"' :: t) =
      .ok (some key, t) := by
    unfold readKey
    rw [readQuoted_flatMap_escape]
  unfold nextKey
  cases first with
  | true =>
    simp only [encode_body_true, hnext, if_neg (show octet '"' ≠ octet '\x7d' by decide), if_true,
      hkey, t]
  | false =>
    rw [encode_body_false, next_cons rfl]
    simp only [if_neg (show octet ',' ≠ octet '\x7d' by decide), hnext, if_true]
    exact hkey

end

/-! ## Values -/

theorem skipColon_cons (s : List UInt8) : skipColon e (octet ':' :: s) = .ok s := by
  unfold skipColon
  rw [next_cons rfl]
  rfl

theorem readOnce_none {α : Type} (name : String)
    (read : List UInt8 → Except Fault (α × List UInt8)) (s : List UInt8) :
    readOnce e name none read (octet ':' :: s) = read s := by
  unfold readOnce
  rw [skipColon_cons]
  rfl

section
variable {sp : List UInt8} (hsp : AllSpace sp) (text : String) (s : List UInt8)
include hsp

theorem next_literal (place : Place) :
    next e place (sp ++ (encode (textLiteral text) ++ s)) =
      .ok (octet '"', encode (text.toList.flatMap escape) ++ octet '"' :: s) := by
  rw [encode_textLiteral, List.cons_append, next_append hsp rfl, List.append_assoc]
  rfl

/-- A text is read as it was written. -/
theorem readText_literal :
    readText e (sp ++ (encode (textLiteral text) ++ s)) = .ok (text, s) := by
  unfold readText
  rw [next_literal hsp]
  exact readQuoted_flatMap_escape text s

theorem readOptionalText_literal :
    readOptionalText e (sp ++ (encode (textLiteral text) ++ s)) = .ok (some text, s) := by
  unfold readOptionalText
  rw [next_literal hsp]
  simp only [if_neg (show octet '"' ≠ octet 'n' by decide), readTextAt, if_true,
    readQuoted_flatMap_escape]

end

end BucketDigest.Json
