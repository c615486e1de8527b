import Mathlib.Data.List.TakeWhile
import BucketDigest.Proofs.Numeral
import BucketDigest.Text.Blank

/-!
# What is trimmed

White space at the ends of a text is trimmed, whatever stands between, and nothing else is.
-/
namespace BucketDigest.Text

theorem isBlank_of_isDigit {c : Char} (h : c.isDigit = true) : isBlank c = false := by
  obtain ⟨hlow, hhigh⟩ := Numeral.toNat_of_isDigit h
  simp only [isBlank, inRanges, blankRanges, List.any_cons, List.any_nil, Bool.or_false,
    Bool.or_eq_false_iff, Bool.and_eq_false_iff, decide_eq_false_iff_not]
  omega

/-- There is no white space in a numeral. -/
theorem isBlank_of_denotes {cs : List Char} {n : Int} (h : Numeral.Denotes cs n) :
    ∀ c ∈ cs, isBlank c = false := by
  cases h with
  | unsigned _ hds => exact fun c hc => isBlank_of_isDigit (hds c hc)
  | plus _ hds => exact List.forall_mem_cons.2 ⟨rfl, fun c hc => isBlank_of_isDigit (hds c hc)⟩
  | minus _ hds => exact List.forall_mem_cons.2 ⟨rfl, fun c hc => isBlank_of_isDigit (hds c hc)⟩

variable {cs before after : List Char}

theorem trimStart_blanks_append (hbefore : ∀ c ∈ before, isBlank c = true) (cs : List Char) :
    trimStart (before ++ cs) = trimStart cs :=
  List.dropWhile_append_of_pos hbefore

theorem trimStart_append (hne : cs ≠ []) (hcs : ∀ c ∈ cs, isBlank c = false)
    (rest : List Char) : trimStart (cs ++ rest) = cs ++ rest := by
  obtain ⟨c, cs, rfl⟩ := List.exists_cons_of_ne_nil hne
  exact List.dropWhile_cons_of_neg (by simp [hcs c (List.mem_cons_self ..)])

theorem exists_blanks_append_trimStart (cs : List Char) :
    ∃ blanks, (∀ c ∈ blanks, isBlank c = true) ∧ cs = blanks ++ trimStart cs :=
  ⟨cs.takeWhile isBlank, fun _ => List.mem_takeWhile_imp, List.takeWhile_append_dropWhile.symm⟩

/-- A text without white space is what is left of it between white space. -/
theorem trim_between (hbefore : ∀ c ∈ before, isBlank c = true)
    (hafter : ∀ c ∈ after, isBlank c = true) (hne : cs ≠ [])
    (hcs : ∀ c ∈ cs, isBlank c = false) : trim (before ++ cs ++ after) = cs := by
  have hafter' : ∀ c ∈ after.reverse, isBlank c = true := fun c hc =>
    hafter c (List.mem_reverse.1 hc)
  have hcs' : ∀ c ∈ cs.reverse, isBlank c = false := fun c hc => hcs c (List.mem_reverse.1 hc)
  have hne' : cs.reverse ≠ [] := fun h => hne (List.reverse_eq_nil_iff.1 h)
  have hback := trimStart_append hne' hcs' []
  rw [List.append_nil] at hback
  unfold trim
  rw [List.append_assoc, trimStart_blanks_append hbefore, trimStart_append hne hcs,
    List.reverse_append, trimStart_blanks_append hafter', hback, List.reverse_reverse]

theorem exists_blanks_append_trim (cs : List Char) :
    ∃ before after, (∀ c ∈ before ++ after, isBlank c = true) ∧
      cs = before ++ trim cs ++ after := by
  obtain ⟨before, hbefore, hcs⟩ := exists_blanks_append_trimStart cs
  obtain ⟨after, hafter, hback⟩ := exists_blanks_append_trimStart (trimStart cs).reverse
  refine ⟨before, after.reverse, fun c hc => ?_, ?_⟩
  · rcases List.mem_append.1 hc with hc | hc
    · exact hbefore c hc
    · exact hafter c (List.mem_reverse.1 hc)
  · have hrest : trimStart cs = trim cs ++ after.reverse := by
      rw [← List.reverse_inj, hback, trim]
      simp
    rw [List.append_assoc, ← hrest]
    exact hcs

end BucketDigest.Text
