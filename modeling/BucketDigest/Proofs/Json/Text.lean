import BucketDigest.Json.Text
import BucketDigest.Json.Writer
import BucketDigest.Proofs.Text.Utf8

/-!
# Texts that are read back

Whatever characters a text has, what is written between its quotes is read as that text: characters
that could end it or that may not stand in it are written as escapes, one of them after the other
(`readOctets_escape`), and every other one stands for itself.

Main statement: `readQuoted_flatMap_escape`.
-/
namespace BucketDigest.Json

open String (utf8EncodeChar)
open Text (encode)

variable {e : Ending}

/-! ## Octets that stand for themselves -/

/-- An octet that neither ends a text nor starts an escape, and may stand in a text. -/
def Plain (b : UInt8) : Prop := b ≠ octet '"' ∧ b ≠ octet '\\' ∧ 0x20 ≤ b

theorem readOctets_plain {p : List UInt8} (hp : ∀ b ∈ p, Plain b) (read s : List UInt8) :
    readOctets e read (p ++ s) = readOctets e (p.reverse ++ read) s := by
  induction p generalizing read with
  | nil => rfl
  | cons b p ih =>
    obtain ⟨⟨hquote, hbackslash, hle⟩, hrest⟩ := List.forall_mem_cons.1 hp
    rw [List.cons_append, readOctets, if_neg hquote, if_neg hbackslash, if_neg (UInt8.not_lt.2 hle),
      ih hrest, List.reverse_cons, List.append_assoc, List.singleton_append]

/-- The octet of an ASCII character is in the encoding of no other character. -/
theorem ne_octet_of_mem_encodeChar {c d : Char} (hne : c ≠ d) (hd : d.toNat < 0x80) {b : UInt8}
    (hb : b ∈ utf8EncodeChar c) : b ≠ octet d := by
  intro h
  have htoNat : b.toNat = d.toNat := by
    rw [h]
    exact Text.toNat_ofNat_of_lt (by omega)
  by_cases hc : c.toNat < 0x80
  · rw [Text.encodeChar_of_ascii hc, List.mem_singleton] at hb
    rw [hb, Text.toNat_ofNat_of_lt (by omega)] at htoNat
    exact hne (Char.toNat_inj.1 htoNat)
  · have := Text.le_of_mem_encodeChar (Nat.le_of_not_lt hc) hb
    omega

theorem plain_of_mem_encodeChar {c : Char} (hquote : c ≠ '"') (hbackslash : c ≠ '\\')
    (hle : 0x20 ≤ c.toNat) {b : UInt8} (hb : b ∈ utf8EncodeChar c) : Plain b := by
  refine ⟨ne_octet_of_mem_encodeChar hquote (by decide) hb,
    ne_octet_of_mem_encodeChar hbackslash (by decide) hb, UInt8.le_iff_toNat_le.2 ?_⟩
  by_cases hc : c.toNat < 0x80
  · rw [Text.encodeChar_of_ascii hc, List.mem_singleton] at hb
    rw [hb, Text.toNat_ofNat_of_lt (by omega)]
    exact hle
  · exact Nat.le_trans (by decide) (Text.le_of_mem_encodeChar (Nat.le_of_not_lt hc) hb)

/-! ## Escapes -/

/-- An escape stands for octets if they are what is read from it. -/
theorem readOctets_backslash {s rest octets : List UInt8} (h : readEscape e s = .ok (octets, rest))
    (read : List UInt8) :
    readOctets e read (octet '\\' :: s) = readOctets e (octets.reverse ++ read) rest := by
  rw [readOctets, if_neg (by decide), if_pos rfl]
  split
  · next h' => rw [h] at h'; cases h'
  · next h' => rw [h] at h'; cases h'; rfl

/-- A control character is read from the digits of its code point. -/
theorem hexNumber?_control : ∀ n < 0x20, hexNumber? [octet '0', octet '0',
    octet (Nat.digitChar (n / 16)), octet (Nat.digitChar (n % 16))] = some n := by
  decide

theorem digitChar_lt : ∀ n < 16, (Nat.digitChar n).toNat < 0x80 := by decide

theorem readEscape_control {c : Char} (h : c.toNat < 0x20) (s : List UInt8) :
    readEscape e (encode (controlEscape c).tail ++ s) = .ok (utf8EncodeChar c, s) := by
  have hascii : ∀ d ∈ (controlEscape c).tail, d.toNat < 0x80 := by
    simp [controlEscape, digitChar_lt (c.toNat / 16) (by omega),
      digitChar_lt (c.toNat % 16) (by omega)]
  have hpoint : readCodePoint e (octet '0' :: octet '0' ::
      octet (Nat.digitChar (c.toNat / 16)) :: octet (Nat.digitChar (c.toNat % 16)) :: s) =
      .ok (c, s) := by
    simp only [readCodePoint, readHex, hexNumber?_control _ h]
    rw [if_neg (by omega), if_neg (by omega), Char.ofNat_toNat]
  rw [Text.encode_of_ascii hascii]
  show readEscape e (octet 'u' :: octet '0' :: octet '0' ::
      octet (Nat.digitChar (c.toNat / 16)) :: octet (Nat.digitChar (c.toNat % 16)) :: s) = _
  rw [readEscape, if_pos rfl, hpoint]

/-- However a character is written in a text, it is read as its octets. -/
theorem readOctets_escape (c : Char) (read s : List UInt8) :
    readOctets e read (encode (escape c) ++ s) =
      readOctets e ((utf8EncodeChar c).reverse ++ read) s := by
  unfold escape
  split
  · next h => subst h; exact readOctets_backslash rfl read
  split
  · next h => subst h; exact readOctets_backslash rfl read
  split
  · next h => subst h; exact readOctets_backslash rfl read
  split
  · next h => subst h; exact readOctets_backslash rfl read
  split
  · next h => subst h; exact readOctets_backslash rfl read
  split
  · next h => subst h; exact readOctets_backslash rfl read
  split
  · next h => subst h; exact readOctets_backslash rfl read
  split
  · next h => exact readOctets_backslash (readEscape_control h s) read
  · next hquote hbackslash _ _ _ _ _ hle =>
    have hplain : ∀ b ∈ utf8EncodeChar c, Plain b := fun b hb =>
      plain_of_mem_encodeChar hquote hbackslash (Nat.le_of_not_lt hle) hb
    rw [Text.encode_cons, Text.encode_nil, List.append_nil, readOctets_plain hplain]

theorem readOctets_flatMap_escape (cs : List Char) (read rest : List UInt8) :
    readOctets e read (encode (cs.flatMap escape) ++ octet '"' :: rest) =
      .ok (read.reverse ++ encode cs, rest) := by
  induction cs generalizing read with
  | nil => rw [List.flatMap_nil, Text.encode_nil, List.nil_append, readOctets, if_pos rfl,
      List.append_nil]
  | cons c cs ih =>
    rw [List.flatMap_cons, Text.encode_append, List.append_assoc, readOctets_escape, ih,
      List.reverse_append, List.reverse_reverse, List.append_assoc, Text.encode_cons]

/-- **Texts.** A text is read as it was written, up to its closing quote. -/
theorem readQuoted_flatMap_escape (s : String) (rest : List UInt8) :
    readQuoted e (encode (s.toList.flatMap escape) ++ octet '"' :: rest) = .ok (s, rest) := by
  unfold readQuoted
  rw [readOctets_flatMap_escape]
  simp only [List.reverse_nil, List.nil_append, Text.decode?_encode, String.ofList_toList]

end BucketDigest.Json
