import BucketDigest.Json.Found
import BucketDigest.Json.Skip
import BucketDigest.Proofs.Json.Extension

/-!
# Numbers that are followed by others

A number ends before the first octet that does not belong to it, which has to be asked for.

* `extends_readNumber`: from a source that fails, the number is known only if that octet is there.
* `extends_skipNumber`: from a source that is closed, the number may go on.
-/
namespace BucketDigest.Json

variable (e d : Ending) (reason : String) (p s : List UInt8)

/-! ## Digits -/

/-- Octets `ds` that are taken off the front of `p`, of which the end is in sight only if one more
octet is there. -/
def Spans (span : List UInt8 → List UInt8 × List UInt8) (p s : List UInt8) : Prop :=
  (∃ ds, span p = (ds, [])) ∨
    ∃ ds b q, b :: q <:+ p ∧ span p = (ds, b :: q) ∧ span (p ++ s) = (ds, b :: q ++ s)

theorem spans_digits : Spans spanDigits p s := by
  induction p with
  | nil => exact .inl ⟨[], rfl⟩
  | cons a p ih =>
    unfold Spans spanDigits at *
    simp only [List.cons_append, List.takeWhile_cons, List.dropWhile_cons]
    cases ha : isDigit a with
    | false => exact .inr ⟨[], a, p, List.suffix_refl _, rfl, rfl⟩
    | true =>
      simp only [if_true]
      obtain ⟨ds, hp⟩ | ⟨ds, b, q, hq, hp, hps⟩ := ih
      · exact .inl ⟨a :: ds, by rw [(Prod.mk.inj hp).1, (Prod.mk.inj hp).2]⟩
      · refine .inr ⟨a :: ds, b, q, hq.trans (List.suffix_cons a p), ?_, ?_⟩
        · rw [(Prod.mk.inj hp).1, (Prod.mk.inj hp).2]
        · rw [(Prod.mk.inj hps).1, (Prod.mk.inj hps).2, List.cons_append]

/-- A zero stands alone. -/
theorem spans_ite (c : Prop) [Decidable c] :
    Spans (fun p => if c then ([], p) else spanDigits p) p s := by
  by_cases h : c
  · unfold Spans
    simp only [if_pos h]
    cases p with
    | nil => exact .inl ⟨[], rfl⟩
    | cons b q => exact .inr ⟨[], b, q, List.suffix_refl _, rfl, rfl⟩
  · simp only [if_neg h]
    exact spans_digits p s

theorem peek_cons (b : UInt8) : peek e (b :: p) = .ok () := by
  cases e <;> rfl

/-! ## Reading -/

theorem extends_signed {loose : Bool} {e : Ending} (negative : Bool)
    (x : Option Decimal.Binary64) {p q : List UInt8} (hq : q <:+ p) :
    Extends loose e p s (signed negative x >>= fun n => pure (n, q))
      (signed negative x >>= fun n => pure (n, q ++ s)) := by
  cases x with
  | none => exact .fails _
  | some x => exact .same (Number.float (if negative then x.neg else x), q) hq

theorem extends_readSign : Extends true e p s (readSign e p) (readSign d (p ++ s)) := by
  cases p with
  | nil =>
    cases e with
    | closed => exact .goesOn rfl rfl rfl
    | failing reason => exact .waits ((Ending.failing reason).blames_fault .value)
  | cons b p =>
    have hp := List.suffix_cons b p
    rw [List.cons_append, readSign, readSign]
    split
    · exact .same (false, p) hp
    split
    · exact .same (true, p) hp
    · exact .same (false, b :: p) (List.suffix_refl _)

theorem extends_readExponentDigits (n : Nat) :
    Extends false (.failing reason) p s (readExponentDigits (.failing reason) n p)
      (readExponentDigits d n (p ++ s)) := by
  induction p generalizing n with
  | nil => exact .waits ((Ending.failing reason).blames_fault .value)
  | cons b p ih =>
    have hp := List.suffix_cons b p
    rw [List.cons_append, readExponentDigits, readExponentDigits]
    split
    · split
      · exact (ih _).mono hp
      · exact .same (none, p) hp
    · exact .same (some n, b :: p) (List.suffix_refl _)

theorem extends_readExponent (negative : Bool) (n : Nat) (power : Int) :
    Extends false (.failing reason) p s (readExponent (.failing reason) negative n power p)
      (readExponent d negative n power (p ++ s)) := by
  unfold readExponent
  refine (extends_readSign (.failing reason) d p s).tight.step .fails (fun _ h _ => .waits h)
    fun down q hq => ?_
  refine .mono ?_ hq
  cases q with
  | nil => exact .waits ((Ending.failing reason).blames_fault .value)
  | cons b q =>
    dsimp only [bind, Except.bind, List.cons_append]
    split
    · exact .fails _
    refine .mono ?_ (List.suffix_cons b q)
    refine (extends_readExponentDigits d reason q s _).step .fails (fun _ h _ => .waits h)
      fun exponent r hr => ?_
    cases exponent with
    | some exponent => exact extends_signed s negative _ hr
    | none =>
      dsimp only
      split
      · exact .fails _
      obtain ⟨ds, hds⟩ | ⟨ds, c, t, ht, hds, hdss⟩ := spans_digits r s
      · rw [(Prod.mk.inj hds).2]
        exact .waits ((Ending.failing reason).blames_fault .value)
      · rw [(Prod.mk.inj hds).2, (Prod.mk.inj hdss).2, peek_cons, List.cons_append, peek_cons]
        exact extends_signed s negative (some (.zero false)) (ht.trans hr)

theorem extends_readFraction (negative : Bool) (n : Nat) (power : Int) :
    Extends false (.failing reason) p s (readFraction (.failing reason) negative n power p)
      (readFraction d negative n power (p ++ s)) := by
  unfold readFraction
  obtain ⟨ds, hp⟩ | ⟨ds, b, q, hq, hp, hps⟩ := spans_digits p s
  · rw [hp]
    exact .waits ((Ending.failing reason).blames_fault .value)
  · rw [hp, hps]
    dsimp only [bind, Except.bind]
    rw [peek_cons, List.cons_append, peek_cons]
    dsimp only
    cases ds with
    | nil => exact .fails _
    | cons a ds =>
      dsimp only
      split
      · exact (extends_readExponent d reason q s _ _ _).mono ((List.suffix_cons b q).trans hq)
      · exact extends_signed s negative _ hq

theorem extends_readNumber (negative : Bool) :
    Extends false (.failing reason) p s (readNumber (.failing reason) negative p)
      (readNumber d negative (p ++ s)) := by
  cases p with
  | nil => exact .waits ((Ending.failing reason).blames_fault .value)
  | cons b p =>
    unfold readNumber
    dsimp only [bind, Except.bind, List.cons_append]
    refine .mono ?_ (List.suffix_cons b p)
    split
    · exact .fails _
    obtain ⟨ds, hp⟩ | ⟨ds, c, q, hq, hp, hps⟩ := spans_ite p s (b = octet '0')
    · dsimp only at hp
      rw [hp]
      exact .waits ((Ending.failing reason).blames_fault .value)
    · dsimp only at hp hps
      rw [hp, hps]
      dsimp only [List.cons_append]
      rw [peek_cons, peek_cons]
      dsimp only
      have hc := (List.suffix_cons c q).trans hq
      split
      · exact .fails _
      split
      · exact (extends_readFraction d reason q s _ _ _).mono hc
      split
      · exact (extends_readExponent d reason q s _ _ _).mono hc
      split
      · exact .same (_, c :: q) hq
      · exact extends_signed s negative _ hq

/-! ## Passing over -/

theorem extends_skipDigits : Extends true e p s (skipDigits e p) (skipDigits d (p ++ s)) := by
  unfold skipDigits
  obtain ⟨ds, hp⟩ | ⟨ds, b, q, hq, hp, hps⟩ := spans_digits p s
  · rw [hp]
    cases e with
    | closed =>
      dsimp only [peek]
      split
      · exact .of_closed rfl
      · exact .goesOn rfl rfl rfl
    | failing reason => exact .waits ((Ending.failing reason).blames_fault .value)
  · rw [hp, hps]
    dsimp only [List.cons_append]
    rw [peek_cons, peek_cons]
    dsimp only
    split
    · exact .fails _
    · exact .same (b :: q) hq

theorem extends_skipExponent :
    Extends true e p s (skipExponent e p) (skipExponent d (p ++ s)) := by
  cases p with
  | nil =>
    cases e with
    | closed => exact .goesOn rfl rfl rfl
    | failing reason => exact .waits ((Ending.failing reason).blames_fault .value)
  | cons b p =>
    rw [List.cons_append, skipExponent, skipExponent]
    split
    · refine .mono ?_ (List.suffix_cons b p)
      refine (extends_readSign e d p s).chain .fails (fun _ h _ => .waits h)
        (fun r hr => (extends_skipDigits e d r.2 s).mono hr) fun he r hr z => ?_
      exact (extends_skipDigits e d r.2 s).of_nil he hr
    · exact .same (b :: p) (List.suffix_refl _)

theorem extends_skipFraction :
    Extends true e p s (skipFraction e p) (skipFraction d (p ++ s)) := by
  cases p with
  | nil =>
    cases e with
    | closed => exact .goesOn rfl rfl rfl
    | failing reason => exact .waits ((Ending.failing reason).blames_fault .value)
  | cons b p =>
    rw [List.cons_append, skipFraction, skipFraction]
    split
    · refine .mono ?_ (List.suffix_cons b p)
      refine (extends_skipDigits e d p s).chain .fails (fun _ h _ => .waits h)
        (fun r hr => (extends_skipExponent e d r s).mono hr) fun he r hr z => ?_
      exact (extends_skipExponent e d r s).of_nil he hr
    · exact extends_skipExponent e d (b :: p) s

theorem extends_skipNumber :
    Extends true e p s (skipNumber e p) (skipNumber d (p ++ s)) := by
  unfold skipNumber
  cases p with
  | nil =>
    cases e with
    | closed => exact .of_closed rfl
    | failing reason => exact .waits ((Ending.failing reason).blames_fault .value)
  | cons b p =>
    rw [List.cons_append, skipWhole, skipWhole]
    by_cases hzero : b = octet '0'
    · rw [if_pos hzero, if_pos hzero]
      cases p with
      | nil =>
        cases e with
        | closed => exact .goesOn rfl rfl rfl
        | failing reason => exact .waits ((Ending.failing reason).blames_fault .value)
      | cons c p =>
        rw [show startsWithDigit (c :: p ++ s) = startsWithDigit (c :: p) from rfl]
        cases startsWithDigit (c :: p) with
        | true => exact .fails _
        | false => exact (extends_skipFraction e d (c :: p) s).mono (List.suffix_cons b _)
    · rw [if_neg hzero, if_neg hzero]
      refine (extends_skipDigits e d (b :: p) s).chain .fails (fun _ h _ => .waits h)
        (fun r hr => (extends_skipFraction e d r s).mono hr) fun he r hr z => ?_
      exact (extends_skipFraction e d r s).of_nil he hr

end BucketDigest.Json
