/-!
# Text as UTF-8 octets

* `bytes`: the octets of a text.
* `scalars`: octets read back, one item for each scalar value and one for each maximal ill-formed
  piece.
* `decode?` accepts well-formed octets only; `decodeLossy` puts U+FFFD for each ill-formed piece.
-/
namespace BucketDigest.Text

/-- The UTF-8 octets of a text. -/
def bytes (s : String) : List UInt8 :=
  s.toList.flatMap String.utf8EncodeChar

/-- What a lead octet announces: the bits it carries, how many octets follow it, and the range
that the first of them must lie in. -/
structure Lead where
  payload : Nat
  following : Nat
  low : UInt8
  high : UInt8

/-- The lead octets of well-formed UTF-8. The narrowed ranges keep out overlong forms, surrogates
and values above U+10FFFF. -/
def Lead.of? (b : UInt8) : Option Lead :=
  if b < 0x80 then some ⟨b.toNat, 0, 0x80, 0xBF⟩
  else if b < 0xC2 then none
  else if b < 0xE0 then some ⟨b.toNat - 0xC0, 1, 0x80, 0xBF⟩
  else if b < 0xF0 then
    some ⟨b.toNat - 0xE0, 2, if b = 0xE0 then 0xA0 else 0x80, if b = 0xED then 0x9F else 0xBF⟩
  else if b < 0xF5 then
    some ⟨b.toNat - 0xF0, 3, if b = 0xF0 then 0x90 else 0x80, if b = 0xF4 then 0x8F else 0xBF⟩
  else none

/-- Reads `n` continuation octets onto `code`, the first of them between `low` and `high`. Gives
the code when all are there, and in either case the octets that were not used. -/
def continuation (code : Nat) : Nat → UInt8 → UInt8 → List UInt8 → Option Nat × List UInt8
  | 0, _, _, s => (some code, s)
  | _ + 1, _, _, [] => (none, [])
  | n + 1, low, high, b :: s =>
    if low ≤ b ∧ b ≤ high then continuation (code * 64 + (b.toNat - 0x80)) n 0x80 0xBF s
    else (none, b :: s)

theorem length_continuation_le (code n : Nat) (low high : UInt8) (s : List UInt8) :
    (continuation code n low high s).2.length ≤ s.length := by
  fun_induction continuation code n low high s with
  | case3 _ _ _ _ _ _ _ ih => exact Nat.le_succ_of_le ih
  | _ => exact Nat.le_refl _

/-- Reads the scalar value, or the maximal ill-formed piece, that starts with the octet `b`. -/
def scalar (b : UInt8) (s : List UInt8) : Option Char × List UInt8 :=
  match Lead.of? b with
  | none => (none, s)
  | some lead =>
    let (code, rest) := continuation lead.payload lead.following lead.low lead.high s
    (code.map Char.ofNat, rest)

theorem length_scalar_le (b : UInt8) (s : List UInt8) : (scalar b s).2.length ≤ s.length := by
  unfold scalar
  split
  · simp
  · exact length_continuation_le ..

/-- The scalar values that octets spell; `none` stands for a maximal ill-formed piece. -/
def scalars : List UInt8 → List (Option Char)
  | [] => []
  | b :: s => (scalar b s).1 :: scalars (scalar b s).2
termination_by s => s.length
decreasing_by
  have := length_scalar_le b s
  simp only [List.length_cons]
  omega

/-- The text that well-formed octets spell. -/
def decode? (s : List UInt8) : Option String :=
  ((scalars s).mapM id).map String.ofList

/-- The text that octets spell, with U+FFFD in place of each ill-formed piece. -/
def decodeLossy (s : List UInt8) : String :=
  String.ofList ((scalars s).map fun c => c.getD '\uFFFD')

@[simp] theorem bytes_empty : bytes "" = [] := rfl

@[simp] theorem bytes_append (s t : String) : bytes (s ++ t) = bytes s ++ bytes t := by
  simp [bytes]

end BucketDigest.Text
