import Mathlib.Algebra.Group.Nat.Defs
import BucketDigest.Numeral

/-!
# Numerals that are read back

* `padded`: digits only, as many as the width says if the number fits (`length_padded`), and they
  stand for the number (`ofDigitChars_padded`).
* `int64?_decimal`: an integer of 64 bits is read as it was written.
* `Denotes`: what texts stand for an integer. They are what is read (`integer?_eq_some_iff`), with
  64 bits too (`int64?_eq_some_iff`, `uint64?_eq_some_iff_of_pos`).
-/
namespace BucketDigest.Numeral

theorem toNat_of_isDigit {c : Char} (h : c.isDigit = true) : 48 ≤ c.toNat ∧ c.toNat ≤ 57 := by
  simp only [Char.isDigit, Bool.and_eq_true, decide_eq_true_eq] at h
  exact ⟨h.1, h.2⟩

/-! ## Numerals of a fixed width -/

theorem ofDigitChars_replicate_zero (n : Nat) :
    Nat.ofDigitChars 10 (List.replicate n '0') 0 = 0 := by
  induction n with
  | zero => rfl
  | succ n ih => rw [List.replicate_succ, Nat.ofDigitChars_cons]; exact ih

theorem isDigit_of_mem_padded {width n : Nat} {c : Char} (h : c ∈ padded width n) :
    c.isDigit = true := by
  rcases List.mem_append.1 h with h | h
  · rw [List.eq_of_mem_replicate h]; rfl
  · exact Nat.isDigit_of_mem_toDigits (by decide) (by decide) h

theorem ofDigitChars_padded (width n : Nat) : Nat.ofDigitChars 10 (padded width n) 0 = n := by
  unfold padded
  rw [Nat.ofDigitChars_append, ofDigitChars_replicate_zero]
  exact Nat.ofDigitChars_toDigits (by decide) (by decide)

theorem padded_ne_nil (width n : Nat) : padded width n ≠ [] :=
  List.append_ne_nil_of_right_ne_nil _ Nat.toDigits_ne_nil

/-- A number that fits the width takes up just the width. -/
theorem length_padded {width n : Nat} (hwidth : 0 < width) (h : n < 10 ^ width) :
    (padded width n).length = width := by
  have hle := (Nat.length_toDigits_le_iff (by decide) hwidth).2 h
  unfold padded
  rw [List.length_append, List.length_replicate]
  omega

theorem length_padded_le {width bound n : Nat} (hwidth : width ≤ bound) (hpos : 0 < bound)
    (h : n < 10 ^ bound) : (padded width n).length ≤ bound := by
  have hle := (Nat.length_toDigits_le_iff (by decide) hpos).2 h
  unfold padded
  rw [List.length_append, List.length_replicate]
  omega

/-- A number that does not fit the width takes up more. -/
theorem lt_length_padded {width n : Nat} (hwidth : 0 < width) (h : 10 ^ width ≤ n) :
    width < (padded width n).length := by
  have hlt := mt (Nat.length_toDigits_le_iff (by decide) hwidth).1 (Nat.not_lt.2 h)
  unfold padded
  rw [List.length_append]
  omega

theorem natural?_padded (width n : Nat) : natural? (padded width n) = some n := by
  have hall : (padded width n).all Char.isDigit = true :=
    List.all_eq_true.2 fun c hc => isDigit_of_mem_padded hc
  unfold natural?
  rw [if_pos ⟨padded_ne_nil width n, hall⟩, ofDigitChars_padded]

/-! ## Where digits end -/

/-- Nothing, or something else than a digit. -/
def EndsDigits (rest : List Char) : Prop := ∀ c ∈ rest.head?, c.isDigit = false

theorem endsDigits_nil : EndsDigits [] := nofun

theorem endsDigits_cons {c : Char} (hc : c.isDigit = false) (rest : List Char) :
    EndsDigits (c :: rest) := by
  intro d hd
  cases hd
  exact hc

section
variable {ds rest : List Char}

theorem EndsDigits.takeWhile_append (h : EndsDigits rest) (hds : ∀ c ∈ ds, c.isDigit = true) :
    (ds ++ rest).takeWhile Char.isDigit = ds := by
  rw [List.takeWhile_append_of_pos hds]
  cases rest with
  | nil => exact List.append_nil ds
  | cons c rest => rw [List.takeWhile_cons_of_neg (by simp [h c rfl]), List.append_nil]

theorem EndsDigits.dropWhile_append (h : EndsDigits rest) (hds : ∀ c ∈ ds, c.isDigit = true) :
    (ds ++ rest).dropWhile Char.isDigit = rest := by
  rw [List.dropWhile_append_of_pos hds]
  cases rest with
  | nil => rfl
  | cons c rest => exact List.dropWhile_cons_of_neg (by simp [h c rfl])

end

/-! ## Integers -/

/-- Digits are no sign. -/
theorem integer?_of_natural? {cs : List Char} {n : Nat} (h : natural? cs = some n) :
    integer? cs = some (n : Int) := by
  have hsign : ∀ c cs, c.isDigit = false → natural? (c :: cs) = none := by
    intro c cs hc
    simp [natural?, hc]
  unfold integer?
  split
  · rw [hsign _ _ rfl] at h; cases h
  · rw [hsign _ _ rfl] at h; cases h
  · rw [h]; rfl

theorem integer?_decimal (n : Int) : integer? (decimal n) = some n := by
  cases n with
  | ofNat n => exact integer?_of_natural? (natural?_toDigits n)
  | negSucc n =>
    show (natural? (Nat.toDigits 10 (n + 1))).map (fun n => -(n : Int)) = _
    rw [natural?_toDigits]
    rfl

/-- Writing an integer of 64 bits and reading it back. -/
theorem int64?_decimal {n : Int} (h : FitsInt64 n) : int64? (decimal n) = some n := by
  unfold int64?
  rw [integer?_decimal, Option.filter_some, if_pos (decide_eq_true h)]

/-! ## What integers are read from -/

/-- A text stands for an integer: ASCII digits, at least one, after an optional sign. -/
inductive Denotes : List Char → Int → Prop
  | unsigned {ds : List Char} (hne : ds ≠ []) (hds : ∀ c ∈ ds, c.isDigit = true) :
    Denotes ds (Nat.ofDigitChars 10 ds 0 : Nat)
  | plus {ds : List Char} (hne : ds ≠ []) (hds : ∀ c ∈ ds, c.isDigit = true) :
    Denotes ('+' :: ds) (Nat.ofDigitChars 10 ds 0 : Nat)
  | minus {ds : List Char} (hne : ds ≠ []) (hds : ∀ c ∈ ds, c.isDigit = true) :
    Denotes ('-' :: ds) (-(Nat.ofDigitChars 10 ds 0 : Nat))

theorem natural?_eq_some_iff {cs : List Char} {n : Nat} :
    natural? cs = some n ↔
      (cs ≠ [] ∧ ∀ c ∈ cs, c.isDigit = true) ∧ Nat.ofDigitChars 10 cs 0 = n := by
  unfold natural?
  rw [Option.ite_none_right_eq_some, List.all_eq_true, Option.some.injEq]

/-- Digits behind a sign, read as an integer and changed as the sign says. -/
theorem map_natural?_eq_some_iff {ds : List Char} {f : Int → Int} {n : Int} :
    ((do let k ← natural? ds; pure (k : Int)).map f) = some n ↔
      (ds ≠ [] ∧ ∀ c ∈ ds, c.isDigit = true) ∧ f (Nat.ofDigitChars 10 ds 0 : Nat) = n := by
  simp only [Option.bind_eq_bind, Option.pure_def, Option.map_eq_some_iff, Option.bind_eq_some_iff,
    natural?_eq_some_iff, Option.some.injEq]
  constructor
  · rintro ⟨-, ⟨-, ⟨hds, rfl⟩, rfl⟩, rfl⟩
    exact ⟨hds, rfl⟩
  · rintro ⟨hds, rfl⟩
    exact ⟨_, ⟨_, ⟨hds, rfl⟩, rfl⟩, rfl⟩

/-- An integer is read from the texts that stand for it, and from no others. -/
theorem integer?_eq_some_iff {cs : List Char} {n : Int} :
    integer? cs = some n ↔ Denotes cs n := by
  constructor
  · intro h
    unfold integer? at h
    split at h
    all_goals obtain ⟨⟨hne, hds⟩, rfl⟩ := map_natural?_eq_some_iff.1 h
    · exact .minus hne hds
    · exact .plus hne hds
    · exact .unsigned hne hds
  · rintro (⟨hne, hds⟩ | ⟨hne, hds⟩ | ⟨hne, hds⟩)
    · exact integer?_of_natural? (natural?_eq_some_iff.2 ⟨⟨hne, hds⟩, rfl⟩)
    · rw [integer?]
      exact map_natural?_eq_some_iff.2 ⟨⟨hne, hds⟩, rfl⟩
    · rw [integer?]
      exact map_natural?_eq_some_iff.2 ⟨⟨hne, hds⟩, rfl⟩

theorem int64?_eq_some_iff {cs : List Char} {n : Int} :
    int64? cs = some n ↔ Denotes cs n ∧ FitsInt64 n := by
  unfold int64?
  rw [Option.filter_eq_some_iff, integer?_eq_some_iff, decide_eq_true_iff]

theorem Denotes.unique {cs : List Char} {n n' : Int} (h : Denotes cs n) (h' : Denotes cs n') :
    n = n' :=
  Option.some.inj ((integer?_eq_some_iff.2 h).symm.trans (integer?_eq_some_iff.2 h'))

theorem Denotes.ne_nil {cs : List Char} {n : Int} (h : Denotes cs n) : cs ≠ [] := by
  cases h with
  | unsigned hne _ => exact hne
  | plus _ _ => exact List.cons_ne_nil _ _
  | minus _ _ => exact List.cons_ne_nil _ _

/-- What is written for an integer stands for it. -/
theorem denotes_decimal (n : Int) : Denotes (decimal n) n :=
  integer?_eq_some_iff.1 (integer?_decimal n)

/-- A text stands for a positive integer if it is digits of that value, after a plus sign or not. -/
theorem denotes_iff_of_pos {cs : List Char} {n : Int} (hn : 0 < n) :
    Denotes cs n ↔ ∃ ds, (cs = ds ∨ cs = '+' :: ds) ∧ ds ≠ [] ∧ (∀ c ∈ ds, c.isDigit = true) ∧
      n = Nat.ofDigitChars 10 ds 0 := by
  constructor
  · intro h
    cases h with
    | unsigned hne hds => exact ⟨_, .inl rfl, hne, hds, rfl⟩
    | plus hne hds => exact ⟨_, .inr rfl, hne, hds, rfl⟩
    | minus hne hds => omega
  · intro h
    obtain ⟨ds, rfl | rfl, hne, hds, rfl⟩ := h
    · exact .unsigned hne hds
    · exact .plus hne hds

theorem uint64?_eq_some_iff {cs : List Char} {n : UInt64} :
    uint64? cs = some n ↔ natural? (afterPlus cs) = some n.toNat := by
  unfold uint64?
  cases natural? (afterPlus cs) with
  | none => exact ⟨nofun, nofun⟩
  | some m =>
    dsimp only
    rw [Option.ite_none_right_eq_some, Option.some.injEq, Option.some.injEq, ← UInt64.toNat_inj]
    constructor
    · intro h
      obtain ⟨hm, hn⟩ := h
      rwa [UInt64.toNat_ofNat_of_lt' hm] at hn
    · rintro rfl
      exact ⟨n.toNat_lt, UInt64.toNat_ofNat_of_lt' n.toNat_lt⟩

/-- A positive number of 64 bits is read from the texts that stand for it, and from no others. -/
theorem uint64?_eq_some_iff_of_pos {cs : List Char} {n : UInt64} (hn : 0 < n) :
    uint64? cs = some n ↔ Denotes cs (n.toNat : Int) := by
  have hpos : (0 : Int) < n.toNat := Int.natCast_pos.2 (UInt64.lt_iff_toNat_lt.1 hn)
  rw [uint64?_eq_some_iff, natural?_eq_some_iff, denotes_iff_of_pos hpos]
  constructor
  · intro h
    obtain ⟨⟨hne, hds⟩, hvalue⟩ := h
    refine ⟨afterPlus cs, ?_, hne, hds, by rw [hvalue]⟩
    unfold afterPlus
    split
    · exact .inr rfl
    · exact .inl rfl
  · intro h
    obtain ⟨ds, hcs, hne, hds, hvalue⟩ := h
    have hplus : afterPlus cs = ds := by
      rcases hcs with rfl | rfl
      · unfold afterPlus
        split
        · exact absurd (hds '+' (List.mem_cons_self ..)) (by decide)
        · rfl
      · rfl
    rw [hplus]
    exact ⟨⟨hne, hds⟩, (Int.ofNat_inj.1 hvalue).symm⟩

end BucketDigest.Numeral
