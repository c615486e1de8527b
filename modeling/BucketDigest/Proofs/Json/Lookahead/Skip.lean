import BucketDigest.Proofs.Json.Lookahead

/-!
# Octets that settle what is passed over

Passing over a value is loose. A number ends where the next octet does not belong to it, and a list
or an object is entered after a look at the first octet behind its opening bracket.

* `settled_skipNumber`: numbers.
* `settled_skipValue`: values of any depth.
-/
namespace BucketDigest.Json

variable {loose : Bool} {e : Ending} {b : UInt8} {s rest : List UInt8}

/-! ## Texts -/

theorem settled_skipEscape (h : skipEscape e s = .ok rest) :
    Settled loose skipEscape id s rest := by
  cases s with
  | nil => cases h
  | cons b s =>
    rw [skipEscape] at h
    split at h
    · next hb =>
      split at h
      · cases h
      next n s₁ h₁ =>
      cases h
      have hdigits : Settled loose (fun d t => skipEscape d (b :: t)) id s rest :=
        (settled_readHex h₁).last fun d u t hu => by
          rw [skipEscape, if_pos hb, hu]
          rfl
      exact hdigits.cons fun _ _ => rfl
    next hb =>
    split at h
    · next hshort =>
      cases h
      exact .one fun d t => by rw [skipEscape, if_neg hb, if_pos hshort]; rfl
    · cases h

theorem settled_skipQuoted (h : skipQuoted e s = .ok rest) :
    Settled loose skipQuoted id s rest := by
  fun_induction skipQuoted e s with
  | case1 => cases h
  | case2 s =>
    cases h
    exact .one fun d t => by rw [skipQuoted_cons, if_pos rfl]; rfl
  | case3 => cases h
  | case4 s s₁ h₁ hquote ih =>
    have hmore : Settled loose (fun d t => skipQuoted d (octet '\\' :: t)) id s rest :=
      (settled_skipEscape h₁).bind (ih h) fun d u t hu => by
        rw [skipQuoted_cons, if_neg hquote, if_pos rfl, hu]
        rfl
    exact hmore.cons fun _ _ => rfl
  | case5 => cases h
  | case6 b s hquote hescape hcontrol ih =>
    exact (ih h).cons fun d t => by
      rw [skipQuoted_cons, if_neg hquote, if_neg hescape, if_neg hcontrol]

/-! ## Numbers -/

/-- Digits end before the first octet that is none, as long as it is there. -/
theorem spanDigits_append {t : List UInt8} (h : SameFront t (s.dropWhile isDigit)) :
    spanDigits (s.takeWhile isDigit ++ t) = (s.takeWhile isDigit, t) := by
  obtain ⟨b, t', u', rfl, hu⟩ := h.head
  have hb : ¬isDigit b = true := by
    have hfirst := List.head?_dropWhile_not isDigit s
    rw [hu] at hfirst
    simpa using hfirst
  have hdigits : ∀ c ∈ s.takeWhile isDigit, isDigit c = true :=
    fun _ => List.mem_takeWhile_imp
  unfold spanDigits
  rw [List.takeWhile_append_of_pos hdigits, List.dropWhile_append_of_pos hdigits,
    List.takeWhile_cons_of_neg hb, List.dropWhile_cons_of_neg hb, List.append_nil]

theorem skipDigits_eq_ok (h : skipDigits e s = .ok rest) :
    s.takeWhile isDigit ≠ [] ∧ rest = s.dropWhile isDigit := by
  unfold skipDigits at h
  split at h
  · cases h
  split at h
  · cases h
  next hne =>
  cases h
  exact ⟨hne, rfl⟩

/-- Of digits at least the first is taken. -/
theorem settled_skipDigits_cons (h : skipDigits e (b :: s) = .ok rest) :
    Settled true (fun d t => skipDigits d (b :: t)) id s rest := by
  obtain ⟨hne, hrest⟩ := skipDigits_eq_ok h
  have hb : isDigit b = true := by
    by_contra hb
    exact hne (List.takeWhile_cons_of_neg hb)
  rw [List.dropWhile_cons_of_pos hb] at hrest
  subst hrest
  refine ⟨s.takeWhile isDigit, List.takeWhile_append_dropWhile.symm, fun d t ht => ?_⟩
  have hspan : spanDigits (b :: (s.takeWhile isDigit ++ t)) = (b :: s.takeWhile isDigit, t) := by
    have hmore := Prod.mk.inj (spanDigits_append (ht rfl))
    unfold spanDigits
    rw [List.takeWhile_cons_of_pos hb, List.dropWhile_cons_of_pos hb, hmore.1, hmore.2]
  obtain ⟨c, t', u', rfl, -⟩ := (ht rfl).head
  dsimp only [skipDigits]
  rw [hspan]
  dsimp only
  rw [peek_cons]
  exact if_neg (List.cons_ne_nil _ _)

theorem settled_skipDigits (h : skipDigits e s = .ok rest) :
    Settled true skipDigits id s rest := by
  cases s with
  | nil => exact absurd rfl (skipDigits_eq_ok h).1
  | cons b s => exact (settled_skipDigits_cons h).cons fun _ _ => rfl

theorem settled_readSign {down : Bool} (h : readSign e s = .ok (down, rest)) :
    Settled true readSign (Prod.mk down) s rest := by
  cases s with
  | nil =>
    rw [List.eq_nil_of_length_eq_zero (Nat.le_zero.1 (length_readSign_le h))]
    exact .of_nil
  | cons b s =>
    rw [readSign] at h
    split at h
    · next hplus =>
      cases h
      exact .one fun d t => by rw [readSign, if_pos hplus]
    next hplus =>
    split at h
    · next hminus =>
      cases h
      exact .one fun d t => by rw [readSign, if_neg hplus, if_pos hminus]
    next hminus =>
    cases h
    exact .stay fun d t => by rw [readSign, if_neg hplus, if_neg hminus]

theorem settled_skipExponent (h : skipExponent e s = .ok rest) :
    Settled true skipExponent id s rest := by
  cases s with
  | nil =>
    rw [List.eq_nil_of_length_eq_zero (Nat.le_zero.1 (length_skipExponent_le h))]
    exact .of_nil
  | cons b s =>
    rw [skipExponent] at h
    split at h
    · next hmark =>
      split at h
      · cases h
      next down s₁ h₁ =>
      have hdigits : Settled true (fun d t => skipExponent d (b :: t)) id s rest :=
        (settled_readSign h₁).bind (settled_skipDigits h) fun d u t hu => by
          rw [skipExponent, if_pos hmark, hu]
      exact hdigits.cons fun _ _ => rfl
    · next hmark =>
      cases h
      exact .stay fun d t => by rw [skipExponent, if_neg hmark, id]

theorem settled_skipFraction (h : skipFraction e s = .ok rest) :
    Settled true skipFraction id s rest := by
  cases s with
  | nil =>
    rw [List.eq_nil_of_length_eq_zero (Nat.le_zero.1 (length_skipFraction_le h))]
    exact .of_nil
  | cons b s =>
    rw [skipFraction] at h
    split at h
    · next hpoint =>
      split at h
      · cases h
      next s₁ h₁ =>
      have hdigits : Settled true (fun d t => skipFraction d (b :: t)) id s rest :=
        (settled_skipDigits h₁).bind (settled_skipExponent h) fun d u t hu => by
          rw [skipFraction, if_pos hpoint, hu]
          rfl
      exact hdigits.cons fun _ _ => rfl
    · next hpoint =>
      exact (settled_skipExponent h).ahead fun d t => by rw [skipFraction, if_neg hpoint]

theorem settled_skipWhole (h : skipWhole e (b :: s) = .ok rest) :
    Settled true (fun d t => skipWhole d (b :: t)) id s rest := by
  rw [skipWhole] at h
  split at h
  · next hzero =>
    split at h
    · cases h
    next hdigit =>
    cases h
    cases s with
    | nil => exact .of_nil
    | cons c s =>
      exact .stay fun d t => by
        rw [skipWhole, if_pos hzero]
        exact if_neg hdigit
  · next hzero =>
    exact (settled_skipDigits_cons h).last fun d u t hu => by
      rw [skipWhole, if_neg hzero, hu]

/-- Of a number at least the first octet is taken. -/
theorem settled_skipNumber_cons (h : skipNumber e (b :: s) = .ok rest) :
    Settled true (fun d t => skipNumber d (b :: t)) id s rest := by
  unfold skipNumber at h
  split at h
  · cases h
  next s₁ h₁ =>
  refine (settled_skipWhole h₁).bind (settled_skipFraction h) fun d u t hu => ?_
  unfold skipNumber
  rw [hu]
  rfl

theorem settled_skipNumber (h : skipNumber e s = .ok rest) :
    Settled true skipNumber id s rest := by
  cases s with
  | nil =>
    rw [List.eq_nil_of_length_eq_zero (Nat.le_zero.1 (length_skipNumber_le h))]
    exact .of_nil
  | cons b s => exact (settled_skipNumber_cons h).cons fun _ _ => rfl

/-! ## Values -/

theorem settled_skipScalar (h : skipScalar e b s = .ok rest) :
    Settled true (fun d => skipScalar d b) id s rest := by
  unfold skipScalar at h
  split at h
  · next hnull =>
    exact (settled_readWord h).last fun d u t hu => by rw [skipScalar, if_pos hnull, hu]
  next hnull =>
  split at h
  · next htrue =>
    exact (settled_readWord h).last fun d u t hu => by
      rw [skipScalar, if_neg hnull, if_pos htrue, hu]
  next htrue =>
  split at h
  · next hfalse =>
    exact (settled_readWord h).last fun d u t hu => by
      rw [skipScalar, if_neg hnull, if_neg htrue, if_pos hfalse, hu]
  next hfalse =>
  split at h
  · next hquote =>
    exact (settled_skipQuoted h).last fun d u t hu => by
      rw [skipScalar, if_neg hnull, if_neg htrue, if_neg hfalse, if_pos hquote, hu]
  next hquote =>
  split at h
  · next hminus =>
    exact (settled_skipNumber h).last fun d u t hu => by
      rw [skipScalar, if_neg hnull, if_neg htrue, if_neg hfalse, if_neg hquote, if_pos hminus, hu]
  next hminus =>
  split at h
  · next hdigit =>
    exact (settled_skipNumber_cons h).last fun d u t hu => by
      rw [skipScalar, if_neg hnull, if_neg htrue, if_neg hfalse, if_neg hquote, if_neg hminus,
        if_pos hdigit, hu]
  · cases h

theorem settled_skipKey (h : skipKey e s = .ok rest) : Settled loose skipKey id s rest := by
  unfold skipKey at h
  split at h
  · cases h
  next b s₁ h₁ =>
  split at h
  · next hquote =>
    split at h
    · cases h
    next s₂ h₂ =>
    refine (settled_next h₁).bind (?_ : Settled _ (fun d t => _) _ _ _) fun d u t hu => by
      unfold skipKey
      rw [hu]
    refine (settled_skipQuoted h₂).bind (settled_skipColon h) fun d u t hu => ?_
    dsimp only
    rw [if_pos hquote, hu]
    rfl
  · cases h

/-- The same progress with other octets left. -/
def Progress.put : Progress → List UInt8 → Progress
  | .over _, t => .over t
  | .inside brackets _, t => .inside brackets t

theorem settled_enterItem {bracket : Bracket} {outer : List Bracket} {p : Progress}
    (h : enterItem e bracket outer s = .ok p) :
    Settled loose (fun d => enterItem d bracket outer) p.put s p.rest := by
  cases bracket with
  | list =>
    cases h
    exact .refl fun _ _ => rfl
  | object =>
    obtain ⟨s₁, h₁, rfl⟩ := map_eq_ok.1 h
    exact (settled_skipKey h₁).map _

theorem settled_afterItem {brackets : List Bracket} {p : Progress}
    (h : afterItem e brackets s = .ok p) :
    Settled loose (fun d => afterItem d brackets) p.put s p.rest := by
  induction brackets generalizing s with
  | nil =>
    cases h
    exact .refl fun _ _ => rfl
  | cons bracket outer ih =>
    rw [afterItem] at h
    split at h
    · cases h
    next c s₁ h₁ =>
    split at h
    · next hcomma =>
      refine (settled_next h₁).bind (settled_enterItem h) fun d u t hu => ?_
      rw [afterItem, hu]
      exact if_pos hcomma
    next hcomma =>
    split at h
    · next hclose =>
      refine (settled_next h₁).bind (ih h) fun d u t hu => ?_
      rw [afterItem, hu]
      dsimp only
      rw [if_neg hcomma, if_pos hclose]
    · cases h

theorem settled_afterOpening {bracket : Bracket} {outer : List Bracket} {p : Progress}
    (h : afterOpening e bracket outer s = .ok p) :
    Settled true (fun d => afterOpening d bracket outer) p.put s p.rest := by
  unfold afterOpening at h
  split at h
  · cases h
  next c s₁ h₁ =>
  split at h
  · next hclose =>
    refine (settled_next h₁).bind (settled_afterItem h) fun d u t hu => ?_
    unfold afterOpening
    rw [hu]
    exact if_pos hclose
  · next hclose =>
    refine (settled_enterItem h).ahead_next h₁ fun d u r hu => ?_
    unfold afterOpening
    rw [hu]
    exact if_neg hclose

theorem settled_skipToken {brackets : List Bracket} {p : Progress}
    (h : skipToken e brackets s = .ok p) :
    Settled true (fun d => skipToken d brackets) p.put s p.rest := by
  unfold skipToken at h
  split at h
  · cases h
  next b s₁ h₁ =>
  split at h
  · next hlist =>
    refine (settled_next h₁).bind (settled_afterOpening h) fun d u t hu => ?_
    unfold skipToken
    rw [hu]
    exact if_pos hlist
  next hlist =>
  split at h
  · next hobject =>
    refine (settled_next h₁).bind (settled_afterOpening h) fun d u t hu => ?_
    unfold skipToken
    rw [hu]
    dsimp only
    rw [if_neg hlist, if_pos hobject]
  next hobject =>
  split at h
  · cases h
  next s₂ h₂ =>
  refine (settled_next h₁).bind (?_ : Settled _ (fun d t => _) _ _ _) fun d u t hu => by
    unfold skipToken
    rw [hu]
  refine (settled_skipScalar h₂).bind (settled_afterItem h) fun d u t hu => ?_
  dsimp only
  rw [if_neg hlist, if_neg hobject, hu]
  rfl

theorem settled_skipWithin {brackets : List Bracket} (h : skipWithin e brackets s = .ok rest) :
    Settled true (fun d => skipWithin d brackets) id s rest := by
  fun_induction skipWithin e brackets s with
  | case1 => cases h
  | case2 brackets s s₁ h₁ =>
    cases h
    refine (settled_skipToken h₁).last fun d u t hu => ?_
    rw [skipWithin_eq, hu]
    rfl
  | case3 brackets s brackets' s₁ h₁ ih =>
    refine (settled_skipToken h₁).bind (ih h) fun d u t hu => ?_
    rw [skipWithin_eq, hu]
    rfl

theorem settled_skipValue (h : skipValue e s = .ok rest) : Settled true skipValue id s rest :=
  settled_skipWithin h

end BucketDigest.Json
