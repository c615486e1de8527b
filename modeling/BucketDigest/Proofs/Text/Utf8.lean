import BucketDigest.Proofs.Text.OctetOrder

/-!
# UTF-8 that is read back

`encode` spells characters as octets. The lead octet of a character tells how many octets follow it
and carries the bits above theirs (`of?_lead`), so that reading gets back the code point.

* `decode?_encode`: the characters that octets were made from.
* `high_of_mem_encodeChar`: a character that is not ASCII has no octet in the range of ASCII.
-/
namespace BucketDigest.Text

open String (utf8EncodeChar)

/-- The UTF-8 octets of characters. -/
def encode (cs : List Char) : List UInt8 := cs.flatMap utf8EncodeChar

@[simp] theorem encode_nil : encode [] = [] := rfl

@[simp] theorem encode_cons (c : Char) (cs : List Char) :
    encode (c :: cs) = utf8EncodeChar c ++ encode cs := rfl

@[simp] theorem encode_append (cs ds : List Char) : encode (cs ++ ds) = encode cs ++ encode ds :=
  List.flatMap_append

theorem bytes_ofList (cs : List Char) : bytes (String.ofList cs) = encode cs := by
  unfold bytes
  rw [String.toList_ofList]
  rfl

/-! ## Octets of a character -/

theorem toNat_ofNat_of_lt {n : Nat} (h : n < 256) : (UInt8.ofNat n).toNat = n := by
  rw [UInt8.toNat_ofNat']
  omega

/-- One octet within its range adds six bits. -/
theorem continuation_cons {low high : UInt8} {d : Nat} (hlow : low.toNat ≤ d + 128)
    (hhigh : d + 128 ≤ high.toNat) (code n : Nat) (s : List UInt8) :
    continuation code (n + 1) low high (UInt8.ofNat (d + 128) :: s) =
      continuation (code * 64 + d) n 0x80 0xBF s := by
  have := high.toNat_lt
  have htoNat : (UInt8.ofNat (d + 128)).toNat = d + 128 := toNat_ofNat_of_lt (by omega)
  have hrange : low ≤ UInt8.ofNat (d + 128) ∧ UInt8.ofNat (d + 128) ≤ high := by
    rw [UInt8.le_iff_toNat_le, UInt8.le_iff_toNat_le, htoNat]
    exact ⟨hlow, hhigh⟩
  rw [continuation, if_pos hrange, htoNat, Nat.add_sub_cancel]

theorem add_digit (code v n : Nat) :
    (code * 64 + v / 64 ^ n % 64) * 64 ^ n + v % 64 ^ n =
      code * 64 ^ (n + 1) + v % 64 ^ (n + 1) := by
  rw [Nat.mod_pow_succ, Nat.pow_succ, Nat.add_mul, Nat.mul_assoc, Nat.mul_comm 64,
    Nat.mul_comm (v / 64 ^ n % 64)]
  omega

/-- Trailing octets give back the bits that they carry. -/
theorem continuation_trail (v code n : Nat) (s : List UInt8) :
    continuation code n 0x80 0xBF (trail v n ++ s) = (some (code * 64 ^ n + v % 64 ^ n), s) := by
  induction n generalizing code with
  | zero => simp [trail, continuation, Nat.mod_one]
  | succ n ih =>
    have hdigit := Nat.mod_lt (v / 64 ^ n) (show 0 < 64 by decide)
    have hhigh : v / 64 ^ n % 64 + 128 ≤ (0xBF : UInt8).toNat := Nat.add_le_add_right
      (Nat.le_of_lt_succ hdigit) 128
    rw [trail, List.cons_append, continuation_cons (Nat.le_add_left ..) hhigh, ih, add_digit]

/-- The first octet may have to lie in a narrower range. -/
theorem continuation_trail_of_range {low high : UInt8} {v k : Nat}
    (hlow : low.toNat ≤ v / 64 ^ k % 64 + 128) (hhigh : v / 64 ^ k % 64 + 128 ≤ high.toNat)
    (code : Nat) (s : List UInt8) :
    continuation code (k + 1) low high (trail v (k + 1) ++ s) =
      (some (code * 64 ^ (k + 1) + v % 64 ^ (k + 1)), s) := by
  rw [trail, List.cons_append, continuation_cons hlow hhigh, continuation_trail, add_digit]

/-! ## Characters -/

/-- The octets of a character are read as that character. -/
theorem scalar_encodeChar (c : Char) (s : List UInt8) :
    scalar (UInt8.ofNat (lead c.toNat)) (trail c.toNat (trailing c.toNat) ++ s) = (some c, s) := by
  have hc : Char.ofNat c.toNat = c := Char.ofNat_toNat c
  have hvalid : c.toNat < 0xD800 ∨ 0xDFFF < c.toNat ∧ c.toNat < 0x110000 := c.valid
  generalize c.toNat = v at hc hvalid
  have hlt : lead v < 256 := by
    unfold lead
    repeat' split
    all_goals omega
  unfold scalar Lead.of?
  simp only [UInt8.lt_iff_toNat_lt, ← UInt8.toNat_inj, toNat_ofNat_of_lt hlt, UInt8.reduceToNat]
  by_cases h₁ : v < 0x80
  · simp [lead, trailing, trail, h₁, continuation, hc]
  · by_cases h₂ : v < 0x800
    · have hlead : lead v = v / 64 + 0xC0 := by simp [lead, h₁, h₂]
      have htrailing : trailing v = 1 := by simp [trailing, h₁, h₂]
      rw [hlead, htrailing, if_neg (by omega), if_neg (by omega), if_pos (by omega)]
      simp only [Nat.add_sub_cancel, continuation_trail]
      simp [Nat.div_add_mod', hc]
    · by_cases h₃ : v < 0x10000
      · have hlead : lead v = v / 4096 + 0xE0 := by simp [lead, h₁, h₂, h₃]
        have htrailing : trailing v = 2 := by simp [trailing, h₁, h₂, h₃]
        rw [hlead, htrailing, if_neg (by omega), if_neg (by omega), if_neg (by omega),
          if_pos (by omega)]
        -- The narrowed ranges leave out only overlong forms and surrogates.
        have hlow : (if v / 4096 + 0xE0 = 0xE0 then 0xA0 else 0x80 : UInt8).toNat ≤
            v / 64 ^ 1 % 64 + 128 := by
          split <;> simp only [UInt8.reduceToNat] <;> omega
        have hhigh : v / 64 ^ 1 % 64 + 128 ≤
            (if v / 4096 + 0xE0 = 0xED then 0x9F else 0xBF : UInt8).toNat := by
          split <;> simp only [UInt8.reduceToNat] <;> omega
        simp only [Nat.add_sub_cancel, continuation_trail_of_range hlow hhigh]
        simp [Nat.div_add_mod', hc]
      · have hlead : lead v = v / 262144 + 0xF0 := by simp [lead, h₁, h₂, h₃]
        have htrailing : trailing v = 3 := by simp [trailing, h₁, h₂, h₃]
        rw [hlead, htrailing, if_neg (by omega), if_neg (by omega), if_neg (by omega),
          if_neg (by omega), if_pos (by omega)]
        -- Here they leave out only overlong forms and what is above U+10FFFF.
        have hlow : (if v / 262144 + 0xF0 = 0xF0 then 0x90 else 0x80 : UInt8).toNat ≤
            v / 64 ^ 2 % 64 + 128 := by
          split <;> simp only [UInt8.reduceToNat] <;> omega
        have hhigh : v / 64 ^ 2 % 64 + 128 ≤
            (if v / 262144 + 0xF0 = 0xF4 then 0x8F else 0xBF : UInt8).toNat := by
          split <;> simp only [UInt8.reduceToNat] <;> omega
        simp only [Nat.add_sub_cancel, continuation_trail_of_range hlow hhigh]
        simp [Nat.div_add_mod', hc]

theorem scalars_encode (cs : List Char) : scalars (encode cs) = cs.map some := by
  induction cs with
  | nil => exact scalars.eq_1
  | cons c cs ih =>
    rw [encode_cons, encode_eq, List.cons_append, scalars, scalar_encodeChar, ih]
    rfl

/-- **UTF-8.** Characters that have been spelled as octets are read back. -/
theorem decode?_encode (cs : List Char) : decode? (encode cs) = some (String.ofList cs) := by
  have hmap : ∀ cs : List Char, (cs.map some).mapM id = some cs := by
    intro cs
    induction cs with
    | nil => rfl
    | cons c cs ih => simp only [List.map_cons, List.mapM_cons, ih]; rfl
  unfold decode?
  rw [scalars_encode, hmap]
  rfl

/-! ## ASCII -/

theorem encodeChar_of_ascii {c : Char} (h : c.toNat < 0x80) :
    utf8EncodeChar c = [UInt8.ofNat c.toNat] := by
  rw [encode_eq]
  simp [lead, trailing, trail, h]

theorem encode_cons_of_ascii {c : Char} (h : c.toNat < 0x80) (cs : List Char) :
    encode (c :: cs) = UInt8.ofNat c.toNat :: encode cs := by
  rw [encode_cons, encodeChar_of_ascii h]
  rfl

theorem encode_of_ascii {cs : List Char} (h : ∀ c ∈ cs, c.toNat < 0x80) :
    encode cs = cs.map fun c => UInt8.ofNat c.toNat := by
  induction cs with
  | nil => rfl
  | cons c cs ih =>
    obtain ⟨hc, hcs⟩ := List.forall_mem_cons.1 h
    rw [encode_cons_of_ascii hc, ih hcs, List.map_cons]

/-- A character that is not ASCII has no octet in the range of ASCII. -/
theorem le_of_mem_encodeChar {c : Char} (h : 0x80 ≤ c.toNat) {b : UInt8}
    (hb : b ∈ utf8EncodeChar c) : 0x80 ≤ b.toNat := by
  have hc := toNat_lt c
  rw [encode_eq] at hb
  generalize c.toNat = v at h hc hb
  rcases List.mem_cons.1 hb with rfl | hb
  · rw [UInt8.toNat_ofNat']
    unfold lead
    repeat' split
    all_goals omega
  · generalize trailing v = n at hb
    induction n with
    | zero => cases hb
    | succ n ih =>
      rcases List.mem_cons.1 hb with rfl | hb
      · have := Nat.mod_lt (v / 64 ^ n) (show 0 < 64 by decide)
        rw [toNat_ofNat_of_lt (by omega)]
        omega
      · exact ih hb

end BucketDigest.Text
