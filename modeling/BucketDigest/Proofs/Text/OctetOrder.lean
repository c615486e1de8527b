import Mathlib.Algebra.Group.Nat.Defs
import BucketDigest.Text.Utf8

/-!
# The order of UTF-8 octets

UTF-8 was made so that octets compare as the characters do that they stand for. `encode_eq` writes
a character as a lead octet and the trailing octets that carry 6 bits each; leads ascend with the
number of trailing octets, and those are digits to base 64, the highest first.

* `compareLex_flatMap_encode`: the octets of two texts compare as their characters do.
* `compare_eq_octets`: the built-in order of texts is the order of their octets.
-/
namespace BucketDigest.Text

open String (utf8EncodeChar)

/-- Compares octets from the first on. -/
def compareOctets : List UInt8 → List UInt8 → Ordering := List.compareLex compare

theorem compareOctets_cons_lt {m n : Nat} (hmn : m < n) (hn : n < 256) (s t : List UInt8) :
    compareOctets (UInt8.ofNat m :: s) (UInt8.ofNat n :: t) = .lt := by
  have hlt : UInt8.ofNat m < UInt8.ofNat n := by
    rw [UInt8.lt_iff_toNat_lt, UInt8.toNat_ofNat', UInt8.toNat_ofNat']
    omega
  unfold compareOctets
  rw [List.compareLex_cons_cons, Std.compare_eq_lt.2 hlt]
  rfl

theorem compareOctets_append_left (p s t : List UInt8) :
    compareOctets (p ++ s) (p ++ t) = compareOctets s t := by
  induction p with
  | nil => rfl
  | cons b p ih =>
    unfold compareOctets at ih ⊢
    rw [List.cons_append, List.cons_append, List.compareLex_cons_cons, Std.ReflOrd.compare_self, ih]
    rfl

theorem compareOctets_swap (s t : List UInt8) :
    compareOctets s t = (compareOctets t s).swap :=
  have h : Std.OrientedCmp compareOctets := inferInstanceAs (Std.OrientedCmp (List.compareLex _))
  h.eq_swap

/-! ## Trailing octets -/

/-- The last `n` octets of a code point, which carry its lowest `6 * n` bits. -/
def trail (v : Nat) : Nat → List UInt8
  | 0 => []
  | n + 1 => UInt8.ofNat (v / 64 ^ n % 64 + 128) :: trail v n

/-- Trailing octets compare as the bits that they carry. -/
theorem compareOctets_trail {v w : Nat} (n : Nat) (h : v % 64 ^ n < w % 64 ^ n)
    (s t : List UInt8) : compareOctets (trail v n ++ s) (trail w n ++ t) = .lt := by
  induction n with
  | zero => rw [Nat.pow_zero, Nat.mod_one, Nat.mod_one] at h; omega
  | succ n ih =>
    rw [Nat.mod_pow_succ, Nat.mod_pow_succ] at h
    have hw := Nat.mod_lt w (Nat.pow_pos (n := n) (show 0 < 64 by decide))
    have hdigit := Nat.mod_lt (w / 64 ^ n) (show 0 < 64 by decide)
    simp only [trail, List.cons_append]
    rcases Nat.lt_trichotomy (v / 64 ^ n % 64) (w / 64 ^ n % 64) with hlt | heq | hgt
    · exact compareOctets_cons_lt (by omega) (by omega) _ _
    · rw [heq] at h ⊢
      rw [← List.singleton_append, ← List.singleton_append (l := trail w n ++ t),
        compareOctets_append_left]
      exact ih (by omega)
    · -- a higher digit outweighs all that follow it
      have := Nat.mul_le_mul_left (64 ^ n) (show w / 64 ^ n % 64 + 1 ≤ v / 64 ^ n % 64 from hgt)
      rw [Nat.mul_succ] at this
      omega

/-! ## Characters -/

/-- How many octets follow the lead octet of a code point. -/
def trailing (v : Nat) : Nat :=
  if v < 0x80 then 0 else if v < 0x800 then 1 else if v < 0x10000 then 2 else 3

/-- The lead octet of a code point. -/
def lead (v : Nat) : Nat :=
  if v < 0x80 then v
  else if v < 0x800 then v / 64 + 0xC0
  else if v < 0x10000 then v / 4096 + 0xE0
  else v / 262144 + 0xF0

theorem toNat_lt (c : Char) : c.toNat < 0x110000 := by
  have h := c.valid
  simp only [UInt32.isValidChar, Nat.isValidChar] at h
  show c.val.toNat < 0x110000
  omega

theorem encode_eq (c : Char) :
    utf8EncodeChar c = UInt8.ofNat (lead c.toNat) :: trail c.toNat (trailing c.toNat) := by
  have hc := toNat_lt c
  simp only [utf8EncodeChar, Char.toNat] at hc ⊢
  generalize c.val.toNat = v at hc ⊢
  by_cases h₁ : v < 0x80
  · simp [lead, trailing, trail, h₁, show v ≤ 127 by omega]
  · by_cases h₂ : v < 0x800
    · simp [lead, trailing, trail, h₁, h₂, show ¬ v ≤ 127 by omega, show v ≤ 2047 by omega,
        show v / 64 % 32 = v / 64 by omega]
    · by_cases h₃ : v < 0x10000
      · simp [lead, trailing, trail, h₁, h₂, h₃, show ¬ v ≤ 127 by omega, show ¬ v ≤ 2047 by omega,
          show v ≤ 65535 by omega, show v / 4096 % 16 = v / 4096 by omega]
      · simp [lead, trailing, trail, h₁, h₂, h₃, show ¬ v ≤ 127 by omega, show ¬ v ≤ 2047 by omega,
          show ¬ v ≤ 65535 by omega, show v / 262144 % 8 = v / 262144 by omega]

/-- Of two code points the lower has the lower lead, or they have the same lead and as many
trailing octets, and differ in the bits that those carry. -/
theorem lead_lt {v w : Nat} (h : v < w) (hw : w < 0x110000) :
    lead v < lead w ∧ lead w < 256 ∨
      lead v = lead w ∧ trailing v = trailing w ∧ v % 64 ^ trailing w < w % 64 ^ trailing w := by
  unfold lead trailing
  repeat' split
  all_goals omega

theorem compareOctets_encode {c d : Char} (h : c < d) (s t : List UInt8) :
    compareOctets (utf8EncodeChar c ++ s) (utf8EncodeChar d ++ t) = .lt := by
  have hcd : c.toNat < d.toNat := h
  rw [encode_eq, encode_eq, List.cons_append, List.cons_append]
  rcases lead_lt hcd (toNat_lt d) with ⟨hlt, hd⟩ | ⟨hlead, htrailing, hmod⟩
  · exact compareOctets_cons_lt hlt hd _ _
  · rw [hlead, htrailing, ← List.singleton_append,
      ← List.singleton_append (l := trail d.toNat (trailing d.toNat) ++ t),
      compareOctets_append_left]
    exact compareOctets_trail _ hmod s t

/-! ## Texts -/

theorem compare_char_lt_iff {c d : Char} : compare c d = .lt ↔ c < d := compareOfLessAndEq_eq_lt

/-- The octets of two texts compare as their characters do. -/
theorem compareLex_flatMap_encode (l m : List Char) :
    compareOctets (l.flatMap utf8EncodeChar) (m.flatMap utf8EncodeChar) =
      List.compareLex compare l m := by
  induction l generalizing m with
  | nil =>
    cases m with
    | nil => rfl
    | cons d m => rw [List.flatMap_cons, encode_eq]; rfl
  | cons c l ih =>
    cases m with
    | nil => rw [List.flatMap_cons, encode_eq]; rfl
    | cons d m =>
      rw [List.flatMap_cons, List.flatMap_cons, List.compareLex_cons_cons]
      cases h : compare c d with
      | lt => exact compareOctets_encode (compare_char_lt_iff.1 h) _ _
      | eq =>
        obtain rfl : c = d := Std.LawfulEqCmp.eq_of_compare h
        rw [compareOctets_append_left, ih]
        rfl
      | gt =>
        have hdc := compare_char_lt_iff.1 (Std.OrientedCmp.gt_iff_lt.1 h)
        rw [compareOctets_swap, compareOctets_encode hdc]
        rfl

theorem compareLex_eq_lt_iff (l m : List Char) : List.compareLex compare l m = .lt ↔ l < m := by
  induction l generalizing m with
  | nil => cases m <;> simp [List.compareLex]
  | cons c l ih =>
    cases m with
    | nil => simp [List.compareLex]
    | cons d m =>
      rw [List.compareLex_cons_cons, Ordering.then_eq_lt, ih, List.cons_lt_cons_iff,
        compare_char_lt_iff, Std.LawfulEqOrd.compare_eq_iff_eq]

/-- Texts compare as their octets do. -/
theorem compare_eq_octets (s t : String) : compare s t = compareOctets (bytes s) (bytes t) := by
  unfold bytes
  rw [compareLex_flatMap_encode]
  have hlt : ∀ s t : String,
      compare s t = .lt ↔ List.compareLex compare s.toList t.toList = .lt := by
    intro s t
    rw [compareLex_eq_lt_iff]
    exact compareOfLessAndEq_eq_lt
  cases h : compare s t with
  | lt => exact ((hlt s t).1 h).symm
  | eq =>
    obtain rfl : s = t := Std.LawfulEqCmp.eq_of_compare h
    exact Std.ReflCmp.compare_self.symm
  | gt =>
    have hgt := (hlt t s).1 (Std.OrientedCmp.gt_iff_lt.1 h)
    exact (Std.OrientedCmp.gt_iff_lt.2 hgt).symm

end BucketDigest.Text
