import BucketDigest.Proofs.Numeral

/-!
# The order of numerals

Numerals with as many digits compare as texts as the numbers do that they stand for.

* `append_lt_append`: two numerals with other characters behind them.
* `padded_append_lt`: numerals of a fixed width.
* `eq_padded`: of so many digits only one numeral stands for a number.
-/
namespace BucketDigest.Numeral

theorem digit_lt {c : Char} (h : c.isDigit = true) : c.toNat - '0'.toNat < 10 := by
  have hhigh := (toNat_of_isDigit h).2
  have hzero : '0'.toNat = 48 := rfl
  omega

theorem ofDigitChars_lt {ds : List Char} (h : ∀ c ∈ ds, c.isDigit = true) :
    Nat.ofDigitChars 10 ds 0 < 10 ^ ds.length := by
  induction ds with
  | nil => decide
  | cons c ds ih =>
    obtain ⟨hc, hds⟩ := List.forall_mem_cons.1 h
    have hrest := ih hds
    have hdigit := Nat.mul_le_mul_left (10 ^ ds.length) (digit_lt hc)
    rw [Nat.ofDigitChars_cons, Nat.ofDigitChars_eq_ofDigitChars_zero, List.length_cons,
      Nat.pow_succ, Nat.mul_zero, Nat.zero_add]
    rw [Nat.mul_succ] at hdigit
    omega

/-- Of two numerals with as many digits the text of the smaller comes first, whatever stands behind
them. -/
theorem append_lt_append {ds es : List Char} (hds : ∀ c ∈ ds, c.isDigit = true)
    (hes : ∀ c ∈ es, c.isDigit = true) (hlen : ds.length = es.length)
    (h : Nat.ofDigitChars 10 ds 0 < Nat.ofDigitChars 10 es 0) (s t : List Char) :
    ds ++ s < es ++ t := by
  induction ds generalizing es with
  | nil =>
    obtain rfl := List.length_eq_zero_iff.1 hlen.symm
    exact absurd h (Nat.lt_irrefl _)
  | cons c ds ih =>
    obtain _ | ⟨d, es⟩ := es
    · cases hlen
    obtain ⟨-, hds'⟩ := List.forall_mem_cons.1 hds
    obtain ⟨hd, hes'⟩ := List.forall_mem_cons.1 hes
    have hlen' : ds.length = es.length := Nat.succ.inj hlen
    rw [Nat.ofDigitChars_cons, Nat.ofDigitChars_cons, Nat.ofDigitChars_eq_ofDigitChars_zero,
      Nat.ofDigitChars_eq_ofDigitChars_zero (l := es), hlen', Nat.mul_zero, Nat.zero_add,
      Nat.zero_add] at h
    rw [List.cons_append, List.cons_append, List.cons_lt_cons_iff]
    rcases Nat.lt_trichotomy c.toNat d.toNat with hlt | heq | hgt
    · exact .inl hlt
    · obtain rfl := Char.toNat_inj.1 heq
      exact .inr ⟨rfl, ih hds' hes' hlen' (by omega)⟩
    · -- a greater first digit outweighs all that follow it
      have hrest := ofDigitChars_lt hes'
      have hzero : '0'.toNat = 48 := rfl
      have hlow := (toNat_of_isDigit hd).1
      have := Nat.mul_le_mul_left (10 ^ es.length)
        (show d.toNat - '0'.toNat + 1 ≤ c.toNat - '0'.toNat by omega)
      rw [Nat.mul_succ] at this
      omega

/-- Numerals of a fixed width are in the order of the numbers. -/
theorem padded_append_lt {width n m : Nat} (h : n < m) (hm : m < 10 ^ width) (s t : List Char) :
    padded width n ++ s < padded width m ++ t := by
  have hwidth : 0 < width := by
    rcases Nat.eq_zero_or_pos width with rfl | hpos
    · rw [Nat.pow_zero] at hm
      omega
    · exact hpos
  refine append_lt_append (fun c hc => isDigit_of_mem_padded hc)
    (fun c hc => isDigit_of_mem_padded hc) ?_ ?_ s t
  · rw [length_padded hwidth (Nat.lt_trans h hm), length_padded hwidth hm]
  · rwa [ofDigitChars_padded, ofDigitChars_padded]

theorem padded_injective {width n m : Nat} (h : padded width n = padded width m) : n = m := by
  rw [← ofDigitChars_padded width n, h, ofDigitChars_padded]

/-- Two numerals with as many digits that stand for the same number are the same. -/
theorem ofDigitChars_injective {ds es : List Char} (hds : ∀ c ∈ ds, c.isDigit = true)
    (hes : ∀ c ∈ es, c.isDigit = true) (hlen : ds.length = es.length)
    (h : Nat.ofDigitChars 10 ds 0 = Nat.ofDigitChars 10 es 0) : ds = es := by
  induction ds generalizing es with
  | nil => exact (List.length_eq_zero_iff.1 hlen.symm).symm
  | cons c ds ih =>
    obtain _ | ⟨d, es⟩ := es
    · cases hlen
    obtain ⟨hc, hds'⟩ := List.forall_mem_cons.1 hds
    obtain ⟨hd, hes'⟩ := List.forall_mem_cons.1 hes
    have hlen' : ds.length = es.length := Nat.succ.inj hlen
    have hpow : 0 < 10 ^ es.length := Nat.pow_pos (by decide)
    have hrest := ofDigitChars_lt hds'
    have hrest' := ofDigitChars_lt hes'
    rw [hlen'] at hrest
    rw [Nat.ofDigitChars_cons, Nat.ofDigitChars_cons, Nat.ofDigitChars_eq_ofDigitChars_zero,
      Nat.ofDigitChars_eq_ofDigitChars_zero (l := es), hlen', Nat.mul_zero, Nat.zero_add,
      Nat.zero_add] at h
    -- The first digits are the quotients, what follows them are the remainders.
    have hfirst := congrArg (· / 10 ^ es.length) h
    have hlast := congrArg (· % 10 ^ es.length) h
    simp only [Nat.mul_add_div hpow, Nat.div_eq_of_lt hrest, Nat.div_eq_of_lt hrest',
      Nat.add_zero] at hfirst
    simp only [Nat.mul_add_mod, Nat.mod_eq_of_lt hrest, Nat.mod_eq_of_lt hrest'] at hlast
    have hzero : '0'.toNat = 48 := rfl
    have hc := (toNat_of_isDigit hc).1
    have hd := (toNat_of_isDigit hd).1
    obtain rfl := Char.toNat_inj.1 (show c.toNat = d.toNat by omega)
    rw [ih hds' hes' hlen' hlast]

/-- Digits are the numeral, of their own width, of the number that they stand for. -/
theorem eq_padded {ds : List Char} (hne : ds ≠ []) (hds : ∀ c ∈ ds, c.isDigit = true) :
    ds = padded ds.length (Nat.ofDigitChars 10 ds 0) := by
  have hlen : 0 < ds.length := List.length_pos_iff.2 hne
  exact ofDigitChars_injective hds (fun c hc => isDigit_of_mem_padded hc)
    (length_padded hlen (ofDigitChars_lt hds)).symm (ofDigitChars_padded ..).symm

end BucketDigest.Numeral
