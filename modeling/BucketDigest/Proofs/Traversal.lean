import Mathlib.Data.List.Forall2

/-!
# Going through a list

A traversal that can fail succeeds as a whole where it does at every element (`mapM_eq_ok_iff`), and
otherwise fails as the first element does that fails (`mapM_eq_error_iff`).
-/
namespace BucketDigest

/-- An element of `a :: l` with what stands before it and after it. -/
theorem exists_split_cons_iff {α : Type} {P : List α → α → List α → Prop} {a : α} {l : List α} :
    (∃ before x after, a :: l = before ++ x :: after ∧ P before x after) ↔
      P [] a l ∨ ∃ before x after, l = before ++ x :: after ∧ P (a :: before) x after := by
  constructor
  · intro hex
    obtain ⟨before, x, after, hsplit, h⟩ := hex
    cases before with
    | nil => cases hsplit; exact .inl h
    | cons y before => cases hsplit; exact .inr ⟨before, x, after, rfl, h⟩
  · intro hor
    rcases hor with h | ⟨before, x, after, hsplit, h⟩
    · exact ⟨[], a, l, rfl, h⟩
    · subst hsplit
      exact ⟨a :: before, x, after, rfl, h⟩

section
variable {ε α β : Type} {f : α → Except ε β}

theorem mapM_cons_eq (a : α) (rest : List α) :
    (a :: rest).mapM f =
      match f a with
      | .error error => .error error
      | .ok b => (rest.mapM f).map (b :: ·) := by
  rw [List.mapM_cons]
  cases f a with
  | error error => rfl
  | ok b => cases rest.mapM f <;> rfl

theorem mapM_eq_ok_iff {l : List α} {bs : List β} :
    l.mapM f = .ok bs ↔ List.Forall₂ (fun a b => f a = .ok b) l bs := by
  induction l generalizing bs with
  | nil =>
    rw [List.forall₂_nil_left_iff]
    exact ⟨fun h => by cases h; rfl, fun h => h ▸ rfl⟩
  | cons a rest ih =>
    rw [mapM_cons_eq]
    cases ha : f a with
    | error error =>
      refine ⟨nofun, fun h => ?_⟩
      cases h with
      | cons hb _ => rw [ha] at hb; cases hb
    | ok b =>
      constructor
      · intro h
        cases hrest : rest.mapM f with
        | error error => rw [hrest] at h; cases h
        | ok bs' => rw [hrest] at h; cases h; exact .cons ha (ih.1 hrest)
      · intro h
        cases h with
        | cons hb hbs =>
          rw [ha] at hb
          cases hb
          show (rest.mapM f).map _ = _
          rw [ih.2 hbs]
          rfl

/-- A traversal fails as the first element does that fails. -/
theorem mapM_eq_error_iff {l : List α} {error : ε} :
    l.mapM f = .error error ↔
      ∃ before a after, l = before ++ a :: after ∧
        (∀ x ∈ before, ∃ b, f x = .ok b) ∧ f a = .error error := by
  induction l with
  | nil =>
    refine ⟨nofun, ?_⟩
    intro hex
    obtain ⟨before, a, after, h, -⟩ := hex
    cases before <;> cases h
  | cons a rest ih =>
    rw [mapM_cons_eq, exists_split_cons_iff]
    simp only [List.forall_mem_cons]
    cases ha : f a with
    | error error' =>
      constructor
      · intro h
        cases h
        exact .inl ⟨by simp, rfl⟩
      · intro hor
        rcases hor with ⟨-, h⟩ | ⟨before, x, after, -, ⟨⟨b, h⟩, -⟩, -⟩
        · cases h; rfl
        · cases h
    | ok b =>
      constructor
      · intro h
        cases hrest : rest.mapM f with
        | ok bs => rw [hrest] at h; cases h
        | error error' =>
          rw [hrest] at h
          cases h
          obtain ⟨before, x, after, hsplit, hbefore, hx⟩ := ih.1 hrest
          exact .inr ⟨before, x, after, hsplit, ⟨⟨b, rfl⟩, hbefore⟩, hx⟩
      · intro hor
        rcases hor with ⟨-, h⟩ | ⟨before, x, after, hsplit, ⟨-, hbefore⟩, hx⟩
        · cases h
        · show (rest.mapM f).map _ = _
          rw [ih.2 ⟨before, x, after, hsplit, hbefore, hx⟩]
          rfl

end

end BucketDigest
