import BucketDigest.Aggregation.Offsets

/-!
# Which offsets are accepted

* `ofList_eq_ok_iff`: offsets are accepted as they are.
* `firstOffence?_eq_some_iff` and `ofList_eq_error_iff`: otherwise a zero in front is named, or the
  first offset that is not above the one before it.
-/
namespace BucketDigest

/-- An offset of a list is the first that is not above the one before it. -/
def IsFirstOffence (l : List UInt64) (offset : UInt64) : Prop :=
  ∃ before previous after, l = before ++ previous :: offset :: after ∧
    (before ++ [previous]).Pairwise (· < ·) ∧ offset ≤ previous

theorem isFirstOffence_cons_cons {previous o offset : UInt64} {rest : List UInt64} :
    IsFirstOffence (previous :: o :: rest) offset ↔
      o ≤ previous ∧ offset = o ∨ previous < o ∧ IsFirstOffence (o :: rest) offset := by
  constructor
  · intro h
    obtain ⟨before, q, after, hsplit, hascending, hle⟩ := h
    cases before with
    | nil =>
      cases hsplit
      exact .inl ⟨hle, rfl⟩
    | cons x before =>
      obtain ⟨rfl, hrest⟩ := List.cons.inj hsplit
      obtain ⟨hlt, htail⟩ := List.pairwise_cons.1 hascending
      refine .inr ⟨?_, before, q, after, hrest, htail, hle⟩
      cases before with
      | nil => cases hrest; exact hlt o (List.mem_singleton_self _)
      | cons y before => cases hrest; exact hlt o (List.mem_cons_self ..)
  · intro hor
    rcases hor with ⟨hle, rfl⟩ | ⟨hlt, before, q, after, hsplit, hascending, hle⟩
    · exact ⟨[], previous, rest, rfl, List.pairwise_singleton _ _, hle⟩
    · refine ⟨previous :: before, q, after, by rw [hsplit]; rfl, ?_, hle⟩
      suffices hall : ∀ x ∈ before ++ [q], previous < x from
        List.pairwise_cons.2 ⟨hall, hascending⟩
      -- The head of the ascending part is `o`, which is above `previous`.
      obtain ⟨tail, htail⟩ : ∃ tail, before ++ [q] = o :: tail := by
        cases before with
        | nil => cases hsplit; exact ⟨_, rfl⟩
        | cons y before => cases hsplit; exact ⟨_, rfl⟩
      rw [htail] at hascending ⊢
      intro x hx
      rcases List.mem_cons.1 hx with rfl | hx
      · exact hlt
      · exact UInt64.lt_trans hlt ((List.pairwise_cons.1 hascending).1 x hx)

theorem IsFirstOffence.ne_nil {l : List UInt64} {offset : UInt64} (h : IsFirstOffence l offset) :
    l ≠ [] := by
  obtain ⟨before, previous, after, rfl, -⟩ := h
  simp

theorem firstOffence?_eq_some_iff {previous offset : UInt64} {l : List UInt64} :
    firstOffence? previous l = some offset ↔ IsFirstOffence (previous :: l) offset := by
  induction l generalizing previous with
  | nil =>
    refine ⟨nofun, ?_⟩
    intro h
    obtain ⟨before, q, after, hsplit, -⟩ := h
    cases before with
    | nil => cases hsplit
    | cons x before => cases before <;> cases hsplit
  | cons o rest ih =>
    rw [isFirstOffence_cons_cons, ← ih, firstOffence?]
    split
    · next hle => simp [hle, UInt64.not_lt.2 hle, eq_comm]
    · next hlt => simp [hlt, UInt64.not_le.1 hlt]

/-- Zero in front of a list makes an offence of a zero at its head. -/
theorem isFirstOffence_zero_cons {l : List UInt64} {offset : UInt64} :
    IsFirstOffence (0 :: l) offset ↔
      l.head? = some 0 ∧ offset = 0 ∨ l.head? ≠ some 0 ∧ IsFirstOffence l offset := by
  cases l with
  | nil =>
    rw [← firstOffence?_eq_some_iff]
    constructor
    · exact nofun
    · rintro (⟨hhead, -⟩ | ⟨-, h⟩)
      · cases hhead
      · exact absurd rfl h.ne_nil
  | cons n rest =>
    rw [isFirstOffence_cons_cons, List.head?_cons, ne_eq, Option.some.injEq]
    by_cases hn : n = 0
    · subst hn
      simp
    · have hpos : 0 < n := UInt64.pos_iff_ne_zero.2 hn
      simp [hn, hpos, UInt64.not_le.2 hpos]

/-- An ascending list has no offence. -/
theorem firstOffence?_of_pairwise {previous : UInt64} {l : List UInt64}
    (h : (previous :: l).Pairwise (· < ·)) : firstOffence? previous l = none := by
  cases hoffence : firstOffence? previous l with
  | none => rfl
  | some offset =>
    obtain ⟨before, q, after, hsplit, -, hle⟩ := firstOffence?_eq_some_iff.1 hoffence
    rw [hsplit, List.pairwise_append] at h
    have hlt := (List.pairwise_cons.1 h.2.1).1 offset (List.mem_cons_self ..)
    exact absurd hle (UInt64.not_le.2 hlt)

/-- A list ascends from above zero if it ascends and its first number is above zero. -/
theorem pairwise_zero_cons_iff {l : List UInt64} :
    (0 :: l).Pairwise (· < ·) ↔ (∀ n, l.head? = some n → 0 < n) ∧ l.Pairwise (· < ·) := by
  rw [List.pairwise_cons]
  refine and_congr_left fun hascending => ?_
  cases l with
  | nil => exact ⟨fun _ => nofun, fun _ => nofun⟩
  | cons n rest =>
    have hrest := (List.pairwise_cons.1 hascending).1
    constructor
    · rintro h _ ⟨⟩
      exact h n (List.mem_cons_self ..)
    · intro h m hm
      have hn : 0 < n := h n rfl
      rcases List.mem_cons.1 hm with rfl | hm
      · exact hn
      · exact UInt64.lt_trans hn (hrest m hm)

namespace Offsets

theorem ofList_eq_ok_iff {l : List UInt64} {o : Offsets} : ofList l = .ok o ↔ o.toList = l := by
  unfold ofList
  constructor
  · intro h
    split at h
    · cases h
    · split at h
      · cases h
      · cases h; rfl
  · intro h
    subst h
    rw [dif_neg o.nonempty]
    split
    · next offset hoffence =>
      rw [firstOffence?_of_pairwise o.ascending] at hoffence
      cases hoffence
    · rfl

theorem exists_ofList_iff {l : List UInt64} :
    (∃ o, ofList l = .ok o) ↔ l ≠ [] ∧ (0 :: l).Pairwise (· < ·) := by
  constructor
  · rintro ⟨o, h⟩
    obtain rfl := ofList_eq_ok_iff.1 h
    exact ⟨o.nonempty, o.ascending⟩
  · rintro ⟨hne, hascending⟩
    exact ⟨⟨l, hne, hascending⟩, ofList_eq_ok_iff.2 rfl⟩

/-- An empty list is refused as such; of another, the offset that is named is zero in front, or else
the first one not above the one before it. -/
theorem ofList_eq_error_iff {l : List UInt64} {error : SetupError} :
    ofList l = .error error ↔
      l = [] ∧ error = .noOffsets ∨
      l.head? = some 0 ∧ error = .invalidOffset 0 ∨
      l.head? ≠ some 0 ∧ ∃ offset, IsFirstOffence l offset ∧ error = .invalidOffset offset := by
  have hofList : ofList l = .error error ↔
      l = [] ∧ error = .noOffsets ∨
        l ≠ [] ∧ ∃ offset, IsFirstOffence (0 :: l) offset ∧ error = .invalidOffset offset := by
    unfold ofList
    simp only [← firstOffence?_eq_some_iff]
    split
    · next hl => simp [hl, eq_comm]
    · next hl =>
      split
      · next offset hoffence => simp [hl, hoffence, eq_comm]
      · next hoffence => simp [hl, hoffence]
  rw [hofList]
  refine or_congr_right ?_
  simp only [isFirstOffence_zero_cons]
  constructor
  · rintro ⟨-, offset, ⟨hzero, rfl⟩ | ⟨hzero, hoffence⟩, rfl⟩
    · exact .inl ⟨hzero, rfl⟩
    · exact .inr ⟨hzero, offset, hoffence, rfl⟩
  · rintro (⟨hzero, rfl⟩ | ⟨hzero, offset, hoffence, rfl⟩)
    · refine ⟨?_, 0, .inl ⟨hzero, rfl⟩, rfl⟩
      rintro rfl
      cases hzero
    · exact ⟨hoffence.ne_nil, offset, .inr ⟨hzero, hoffence⟩, rfl⟩

/-- Of numbers above zero, the first that is not above the one before it is refused. -/
theorem ofList_eq_error_iff_of_pos {l : List UInt64} (hl : l ≠ []) (hpos : ∀ n ∈ l, 0 < n)
    {error : SetupError} :
    ofList l = .error error ↔
      ∃ offset, IsFirstOffence l offset ∧ error = .invalidOffset offset := by
  have hhead : l.head? ≠ some 0 :=
    fun hzero => absurd (hpos 0 (List.mem_of_mem_head? hzero)) (by decide)
  rw [ofList_eq_error_iff]
  simp only [hl, hhead, false_and, false_or, true_and, ne_eq, not_false_eq_true]

/-- The next tier has the offsets behind the first. -/
theorem refine?_eq_some_iff {o o' : Offsets} : o.refine? = some o' ↔ o'.toList = o.toList.tail := by
  refine ⟨toList_of_refine?, fun h => ?_⟩
  unfold refine?
  rw [dif_neg (h ▸ o'.nonempty), Option.some.injEq]
  exact Offsets.ext h.symm

end Offsets

end BucketDigest
