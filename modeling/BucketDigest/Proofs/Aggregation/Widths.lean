import Mathlib.Algebra.Ring.Int.Defs
import BucketDigest.Aggregation.Granularity
import BucketDigest.Proofs.Numeral

/-!
# Widths of integer buckets

A width is checked by a loop that strikes off zeros at its end, one in each pass. Every pass keeps
the product of what is left with the powers of ten that are gone (`Strikes.eq_pow_mul`), so the
loop leaves one just for powers of ten.

* `Strikes`: a whole run of the loop; `exists_strikes`, it ends, and `Strikes.passes_le`, soon.
* `isBucketWidth_iff_rest` and `isBucketWidth_iff`: what the loop decides, and what it comes to.
* `SpellsWidth`: the texts that have a width to check; `exists_ofName_iff`, those that stand for one
  that passes.

Main statement: `IntegerGranularity.widths_are_powers_of_ten`.
-/
namespace BucketDigest

open Numeral (FitsInt64 Denotes int64Min int64Max)

namespace IntegerGranularity

variable {w w' rest : Int} {passes : Nat}

/-! ## The loop -/

/-- One pass of the loop, in 64 bits; nothing where the loop ends. -/
def strike? (w : Int) : Option Int := if 10 ≤ w ∧ w.tmod 10 = 0 then some (w.tdiv 10) else none

/-- Started at `w`, the loop ends after so many passes and leaves `rest`. -/
inductive Strikes : Int → Nat → Int → Prop
  | done {w : Int} (h : strike? w = none) : Strikes w 0 w
  | pass {w w' rest : Int} {passes : Nat} (h : strike? w = some w')
      (hrest : Strikes w' passes rest) : Strikes w (passes + 1) rest

/-- A pass takes a positive multiple of ten to a tenth of it. -/
theorem strike?_eq_some_iff : strike? w = some w' ↔ 1 ≤ w' ∧ w = 10 * w' := by
  unfold strike?
  rw [Option.ite_none_right_eq_some, Option.some.injEq]
  constructor
  · intro h
    obtain ⟨⟨hten, hmod⟩, rfl⟩ := h
    have hsum : w.tmod 10 + 10 * w.tdiv 10 = w := Int.tmod_add_mul_tdiv w 10
    omega
  · intro h
    obtain ⟨hpos, rfl⟩ := h
    exact ⟨⟨by omega, Int.mul_tmod_right 10 w'⟩, Int.mul_tdiv_cancel_left w' (by decide)⟩

theorem Strikes.eq_pow_mul (h : Strikes w passes rest) : w = 10 ^ passes * rest := by
  induction h with
  | done _ => rw [Int.pow_zero, Int.one_mul]
  | @pass w w' rest passes h _ ih =>
    rw [(strike?_eq_some_iff.1 h).2, ih, Int.pow_succ, ← Int.mul_assoc, Int.mul_comm 10]

theorem Strikes.pow_le (h : Strikes w passes rest) (hw : 1 ≤ w) : 10 ^ passes ≤ w := by
  induction h with
  | done _ => exact hw
  | pass h _ ih =>
    obtain ⟨hpos, rfl⟩ := strike?_eq_some_iff.1 h
    have hle := ih hpos
    rw [Int.pow_succ]
    omega

/-- The loop ends, since what is left gets smaller. -/
theorem exists_strikes (w : Int) : ∃ passes rest, Strikes w passes rest := by
  induction hn : w.toNat using Nat.strongRecOn generalizing w with
  | ind n ih =>
    cases h : strike? w with
    | none => exact ⟨0, w, .done h⟩
    | some w' =>
      have hten := strike?_eq_some_iff.1 h
      obtain ⟨passes, rest, hrest⟩ := ih w'.toNat (by omega) w' rfl
      exact ⟨passes + 1, rest, .pass h hrest⟩

/-- There is no room for more zeros in 64 bits. -/
theorem Strikes.passes_le (h : Strikes w passes rest) (hw : w ≤ int64Max) : passes ≤ 18 := by
  rcases Int.lt_or_le w 1 with hlow | hpos
  · cases h with
    | done _ => decide
    | pass hstrike _ =>
      have hten := strike?_eq_some_iff.1 hstrike
      omega
  · have hpow := h.pow_le hpos
    have hlt : (10 ^ passes : Nat) < 10 ^ 19 := by
      unfold int64Max at hw
      have hcast : ((10 ^ passes : Nat) : Int) = 10 ^ passes := Int.natCast_pow 10 passes
      omega
    exact Nat.lt_succ_iff.1 ((Nat.pow_lt_pow_iff_right (by decide)).1 hlt)

/-- What the loop leaves is what the check looks at. -/
theorem Strikes.withoutTrailingZeros_eq (h : Strikes w passes rest) (hw : 0 ≤ w) :
    (withoutTrailingZeros w.toNat : Int) = rest := by
  induction h with
  | @done w h =>
    rw [withoutTrailingZeros, if_neg]
    · exact Int.toNat_of_nonneg hw
    · intro hzero
      have hnot : ¬ (1 ≤ w / 10 ∧ w = 10 * (w / 10)) :=
        mt strike?_eq_some_iff.2 (by rw [h]; exact nofun)
      omega
  | @pass w w' rest passes h _ ih =>
    obtain ⟨hpos, rfl⟩ := strike?_eq_some_iff.1 h
    rw [withoutTrailingZeros, if_pos (by omega),
      show (10 * w').toNat / 10 = w'.toNat by omega]
    exact ih (by omega)

/-! ## Widths -/

/-- The check goes by what the loop leaves. -/
theorem isBucketWidth_iff_rest (h : Strikes w passes rest) :
    IsBucketWidth w ↔ w ≤ int64Max ∧ 10 ≤ w ∧ rest = 1 := by
  unfold IsBucketWidth
  constructor
  · intro hwidth
    obtain ⟨hten, hmax, hzeros⟩ := hwidth
    exact ⟨hmax, hten, by rw [← h.withoutTrailingZeros_eq (by omega), hzeros]; rfl⟩
  · intro hrest
    obtain ⟨hmax, hten, rfl⟩ := hrest
    exact ⟨hten, hmax, Int.ofNat_inj.1 (h.withoutTrailingZeros_eq (by omega))⟩

/-- From a power of ten the loop strikes off one zero after the other. -/
theorem strikes_pow (k : Nat) : Strikes (10 ^ k) k 1 := by
  induction k with
  | zero => exact .done rfl
  | succ k ih =>
    have hpos : (0 : Int) < 10 ^ k := Int.pow_pos (by decide)
    exact .pass (strike?_eq_some_iff.2 ⟨by omega, by rw [Int.pow_succ, Int.mul_comm]⟩) ih

theorem isBucketWidth_iff : IsBucketWidth w ↔ w ≤ int64Max ∧ ∃ k : Nat, 1 ≤ k ∧ w = 10 ^ k := by
  constructor
  · intro hwidth
    obtain ⟨passes, rest, h⟩ := exists_strikes w
    obtain ⟨hmax, hten, rfl⟩ := (isBucketWidth_iff_rest h).1 hwidth
    have hpow := h.eq_pow_mul
    rw [Int.mul_one] at hpow
    refine ⟨hmax, passes, Nat.one_le_iff_ne_zero.2 ?_, hpow⟩
    rintro rfl
    rw [Int.pow_zero] at hpow
    omega
  · intro hpow
    obtain ⟨hmax, k, hk, rfl⟩ := hpow
    refine (isBucketWidth_iff_rest (strikes_pow k)).2 ⟨hmax, ?_, rfl⟩
    exact_mod_cast Nat.pow_le_pow_right (show 0 < 10 by decide) hk

theorem isBucketWidth_iff_of_fits (h : FitsInt64 w) :
    IsBucketWidth w ↔ ∃ k : Nat, 1 ≤ k ∧ w = 10 ^ k := by
  rw [isBucketWidth_iff, and_iff_right h.2]

theorem fitsInt64_of_isBucketWidth (h : IsBucketWidth w) : FitsInt64 w := by
  obtain ⟨hten, hmax, -⟩ := h
  exact ⟨by unfold int64Min; omega, hmax⟩

/-- Another width is refused under its own name, however it was spelled. -/
theorem ofWidth_eq_error (h : ¬ IsBucketWidth w) :
    ofWidth w = .error (.invalidGranularity (widthText w)) :=
  dif_neg h

theorem ofWidth_eq_ok_iff {g : IntegerGranularity} :
    ofWidth w = .ok g ↔ IsBucketWidth w ∧ g.width = w := by
  unfold ofWidth
  split
  · next h =>
    rw [Except.ok.injEq, IntegerGranularity.ext_iff]
    exact ⟨fun he => ⟨h, he.symm⟩, fun he => he.2.symm⟩
  · next h => exact ⟨nofun, fun he => absurd he.1 h⟩

theorem exists_ofWidth_iff : (∃ g, ofWidth w = .ok g) ↔ IsBucketWidth w := by
  simp only [ofWidth_eq_ok_iff]
  exact ⟨fun ⟨_, h, _⟩ => h, fun h => ⟨⟨w, h⟩, h, rfl⟩⟩

/-! ## Texts -/

theorem beforeUnit?_eq_some_iff {cs ds : List Char} :
    beforeUnit? cs = some ds ↔ cs = ds ++ ['s'] := by
  unfold beforeUnit?
  rw [Option.ite_none_right_eq_some, Option.some.injEq]
  constructor
  · intro h
    obtain ⟨hlast, rfl⟩ := h
    obtain ⟨ds, rfl⟩ := List.getLast?_eq_some_iff.1 hlast
    rw [List.dropLast_concat]
  · rintro rfl
    exact ⟨List.getLast?_concat, List.dropLast_concat⟩

/-- A text is a numeral before a final `s`, and its value fits into 64 bits. -/
def SpellsWidth (text : String) (n : Int) : Prop :=
  FitsInt64 n ∧ ∃ numeral, text.toList = numeral ++ ['s'] ∧ Denotes numeral n

theorem width?_eq_some_iff {text : String} {n : Int} :
    (beforeUnit? text.toList).bind Numeral.int64? = some n ↔ SpellsWidth text n := by
  simp only [Option.bind_eq_some_iff, beforeUnit?_eq_some_iff, Numeral.int64?_eq_some_iff,
    SpellsWidth]
  constructor
  · intro h
    obtain ⟨numeral, htext, hnumeral, hfits⟩ := h
    exact ⟨hfits, numeral, htext, hnumeral⟩
  · intro h
    obtain ⟨hfits, numeral, htext, hnumeral⟩ := h
    exact ⟨numeral, htext, hnumeral, hfits⟩

theorem SpellsWidth.ofName_eq {text : String} {n : Int} (h : SpellsWidth text n) :
    ofName text = ofWidth n := by
  rw [ofName, width?_eq_some_iff.2 h]

theorem ofName_of_not_spellsWidth {text : String} (h : ∀ n, ¬ SpellsWidth text n) :
    ofName text = .error (.invalidGranularity text) := by
  have hnone : (beforeUnit? text.toList).bind Numeral.int64? = none :=
    Option.eq_none_iff_forall_ne_some.2 fun n hn => h n (width?_eq_some_iff.1 hn)
  rw [ofName, hnone]

theorem ofName_eq_ok_iff {text : String} {g : IntegerGranularity} :
    ofName text = .ok g ↔ SpellsWidth text g.width := by
  constructor
  · intro h
    by_cases hspells : ∃ n, SpellsWidth text n
    · obtain ⟨n, hn⟩ := hspells
      rw [hn.ofName_eq] at h
      rwa [(ofWidth_eq_ok_iff.1 h).2]
    · rw [ofName_of_not_spellsWidth (not_exists.1 hspells)] at h
      cases h
  · intro h
    rw [h.ofName_eq]
    exact ofWidth_eq_ok_iff.2 ⟨g.isBucketWidth, rfl⟩

/-- What is written for a granularity spells its width. -/
theorem spellsWidth_name (g : IntegerGranularity) : SpellsWidth g.name g.width := by
  refine ⟨fitsInt64_of_isBucketWidth g.isBucketWidth, Numeral.decimal g.width, ?_, ?_⟩
  · rw [name, widthText, String.toList_ofList]
  · exact Numeral.denotes_decimal g.width

/-- Reading what was written. -/
theorem ofName_name (g : IntegerGranularity) : ofName g.name = .ok g :=
  ofName_eq_ok_iff.2 g.spellsWidth_name

/-- A text is a width if a power of ten within 64 bits stands before a final `s`. -/
theorem exists_ofName_iff {text : String} {n : Int} :
    (∃ g, ofName text = .ok g ∧ g.width = n) ↔
      IsBucketWidth n ∧ ∃ cs, text.toList = cs ++ ['s'] ∧ Denotes cs n := by
  simp only [ofName_eq_ok_iff]
  constructor
  · intro h
    obtain ⟨g, htext, rfl⟩ := h
    exact ⟨g.isBucketWidth, htext.2⟩
  · intro h
    exact ⟨⟨n, h.1⟩, ⟨fitsInt64_of_isBucketWidth h.1, h.2⟩, rfl⟩

/-- **Widths are the powers of ten.** For a width of 64 bits the loop ends after 18 passes at most,
and the width is accepted, as it is, if and only if it is ten or more and the loop leaves one; these
are the powers of ten from ten on. A text is accepted if and only if it is digits that stand for
such a width, after a plus sign or none and before an `s`, and what is written for a granularity is
read as that granularity. -/
theorem widths_are_powers_of_ten :
    (∀ width, FitsInt64 width → ∃ passes rest, Strikes width passes rest ∧ passes ≤ 18 ∧
      ((∃ g, ofWidth width = .ok g) ↔ 10 ≤ width ∧ rest = 1) ∧
      ((∃ g, ofWidth width = .ok g) ↔ ∃ k : Nat, 1 ≤ k ∧ width = 10 ^ k) ∧
      ∀ g, ofWidth width = .ok g → g.width = width) ∧
    (∀ text n, (∃ g, ofName text = .ok g ∧ g.width = n) ↔
      (n ≤ int64Max ∧ ∃ k : Nat, 1 ≤ k ∧ n = 10 ^ k) ∧
        ∃ cs, text.toList = cs ++ ['s'] ∧ ∃ ds, (cs = ds ∨ cs = '+' :: ds) ∧
          ds ≠ [] ∧ (∀ c ∈ ds, c.isDigit = true) ∧ n = Nat.ofDigitChars 10 ds 0) ∧
    ∀ g, ofName g.name = .ok g := by
  refine ⟨fun width hfits => ?_, fun text n => ?_, ofName_name⟩
  · obtain ⟨passes, rest, h⟩ := exists_strikes width
    refine ⟨passes, rest, h, h.passes_le hfits.2, ?_, ?_, fun g hg => (ofWidth_eq_ok_iff.1 hg).2⟩
    · rw [exists_ofWidth_iff, isBucketWidth_iff_rest h, and_iff_right hfits.2]
    · rw [exists_ofWidth_iff, isBucketWidth_iff_of_fits hfits]
  · rw [exists_ofName_iff, isBucketWidth_iff]
    refine and_congr_right fun hpow => ?_
    obtain ⟨-, k, -, rfl⟩ := hpow
    simp only [Numeral.denotes_iff_of_pos (Int.pow_pos (show (0 : Int) < 10 by decide))]

/-- The widest of all, and a text with a sign and a zero too many. -/
theorem widths_are_powers_of_ten_at_the_limit :
    FitsInt64 (10 ^ 18) ∧ (∃ passes ≤ 18, Strikes (10 ^ 18) passes 1) ∧
      (∃ g, ofWidth (10 ^ 18) = .ok g) ∧ ∃ g, ofName "+0100s" = .ok g ∧ g.width = 100 := by
  obtain ⟨hwidth, hname, -⟩ := widths_are_powers_of_ten
  have hfits : FitsInt64 (10 ^ 18) := by decide
  obtain ⟨passes, rest, hstrikes, hpasses, hloop, hpow, -⟩ := hwidth _ hfits
  have haccepted := hpow.2 ⟨18, by decide, rfl⟩
  obtain ⟨-, rfl⟩ := hloop.1 haccepted
  refine ⟨hfits, ⟨passes, hpasses, hstrikes⟩, haccepted, (hname "+0100s" 100).2 ?_⟩
  exact ⟨⟨by decide, 2, by decide, rfl⟩, ['+', '0', '1', '0', '0'], rfl, ['0', '1', '0', '0'],
    .inr rfl, List.cons_ne_nil _ _, List.all_eq_true.1 rfl, rfl⟩

end IntegerGranularity

end BucketDigest
