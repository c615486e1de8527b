import BucketDigest.Proofs.Json.Extension.Number

/-!
# Values that are passed over and followed by others

A value that is passed over ends with its last octet, except for a number, which may go on.

* `extends_skipColon`, `extends_skipKey`: between a key and its value.
* `extends_skipValue`: a value of any depth.
-/
namespace BucketDigest.Json

variable (loose : Bool) (e d : Ending) (p s : List UInt8)

instance : Remainder Progress where
  rest := Progress.rest
  append
    | .over q, s => .over (q ++ s)
    | .inside brackets q, s => .inside brackets (q ++ s)

/-! ## Texts -/

theorem extends_skipEscape : Extends loose e p s (skipEscape e p) (skipEscape d (p ++ s)) := by
  cases p with
  | nil => exact .waits (e.blames_fault .text)
  | cons b p =>
    have hp := List.suffix_cons b p
    rw [List.cons_append, skipEscape, skipEscape]
    split
    · refine .mono ?_ hp
      refine (extends_readHex false e d p s).step .fails (fun _ h _ => .waits h) fun n q hq => ?_
      exact .same q hq
    · split
      · exact .same p hp
      · exact .fails _

/-- One octet of a text that is passed over. -/
theorem skipQuoted_cons (b : UInt8) (p : List UInt8) :
    skipQuoted e (b :: p) =
      if b = octet '"' then .ok p
      else if b = octet '\\' then
        match skipEscape e p with
        | .error f => .error f
        | .ok q => skipQuoted e q
      else if b < 0x20 then .error (.malformed .controlCharacter)
      else skipQuoted e p := by
  rw [skipQuoted]
  congr 2
  split <;> simp_all

theorem extends_skipQuoted (loose : Bool) (e d : Ending) (p s : List UInt8) :
    Extends loose e p s (skipQuoted e p) (skipQuoted d (p ++ s)) := by
  cases p with
  | nil =>
    rw [skipQuoted]
    exact .waits (e.blames_fault .text)
  | cons b p =>
    have hp := List.suffix_cons b p
    rw [List.cons_append, skipQuoted_cons, skipQuoted_cons]
    split
    · exact .same p hp
    split
    · refine .mono ?_ hp
      refine (extends_skipEscape false e d p s).skip .fails (fun _ h _ => .waits h) fun q hq => ?_
      have := hq.length_le
      exact (extends_skipQuoted loose e d q s).mono hq
    split
    · exact .fails _
    · exact (extends_skipQuoted loose e d p s).mono hp
termination_by p.length
decreasing_by all_goals (simp only [List.length_cons]; omega)

theorem extends_skipScalar (b : UInt8) :
    Extends true e (b :: p) s (skipScalar e b p) (skipScalar d b (p ++ s)) := by
  have hp := List.suffix_cons b p
  unfold skipScalar
  split
  · exact (extends_readWord true e d p s _).mono hp
  split
  · exact (extends_readWord true e d p s _).mono hp
  split
  · exact (extends_readWord true e d p s _).mono hp
  split
  · exact (extends_skipQuoted true e d p s).mono hp
  split
  · exact (extends_skipNumber e d p s).mono hp
  split
  · exact extends_skipNumber e d (b :: p) s
  · exact .fails _

/-! ## Keys -/

theorem extends_skipColon : Extends loose e p s (skipColon e p) (skipColon d (p ++ s)) := by
  unfold skipColon
  refine (extends_next false e d p s _).step .fails (fun _ h _ => .waits h) fun b q hq => ?_
  dsimp only
  split
  · exact .same q hq
  · exact .fails _

theorem extends_skipKey : Extends loose e p s (skipKey e p) (skipKey d (p ++ s)) := by
  unfold skipKey
  refine (extends_next false e d p s _).step .fails (fun _ h _ => .waits h) fun b q hq => ?_
  refine .mono ?_ hq
  dsimp only
  split
  · refine (extends_skipQuoted false e d q s).skip .fails (fun _ h _ => .waits h) fun q hq => ?_
    exact (extends_skipColon loose e d q s).mono hq
  · exact .fails _

/-! ## Brackets -/

theorem extends_enterItem (b : Bracket) (outer : List Bracket) :
    Extends loose e p s (enterItem e b outer p) (enterItem d b outer (p ++ s)) := by
  cases b with
  | list => exact .same (Progress.inside (.list :: outer) p) (List.suffix_refl _)
  | object => exact (extends_skipKey loose e d p s).map (fun _ => rfl) fun _ => rfl

theorem extends_afterItem (brackets : List Bracket) :
    Extends loose e p s (afterItem e brackets p) (afterItem d brackets (p ++ s)) := by
  induction brackets generalizing p with
  | nil => exact .same (Progress.over p) (List.suffix_refl _)
  | cons b outer ih =>
    rw [afterItem, afterItem]
    refine (extends_next false e d p s _).step .fails (fun _ h _ => .waits h) fun c q hq => ?_
    refine .mono ?_ hq
    dsimp only
    split
    · exact extends_enterItem loose e d q s b outer
    split
    · exact ih q
    · exact .fails _

theorem extends_afterOpening (b : Bracket) (outer : List Bracket) :
    Extends loose e p s (afterOpening e b outer p) (afterOpening d b outer (p ++ s)) := by
  unfold afterOpening
  refine (extends_next false e d p s _).step .fails (fun _ h _ => .waits h) fun c q hq => ?_
  dsimp only
  split
  · exact (extends_afterItem loose e d q s outer).mono hq
  · exact extends_enterItem loose e d p s b outer

/-! ## Values -/

theorem extends_skipToken (brackets : List Bracket) :
    Extends true e p s (skipToken e brackets p) (skipToken d brackets (p ++ s)) := by
  unfold skipToken
  obtain ⟨f, hf, hp⟩ | ⟨b, q, hq, hp, hps⟩ := next_cases e d p s .value
  · rw [hp]
    exact .waits hf
  rw [hp, hps]
  dsimp only
  split
  · exact (extends_afterOpening true e d q s _ _).mono ((List.suffix_cons b q).trans hq)
  split
  · exact (extends_afterOpening true e d q s _ _).mono ((List.suffix_cons b q).trans hq)
  · refine .mono ?_ hq
    refine (extends_skipScalar e d q s b).chain .fails (fun _ h _ => .waits h)
      (fun r hr => (extends_afterItem true e d r s brackets).mono hr) fun he r hr z => ?_
    exact (extends_afterItem true e d r s brackets).of_nil he hr

/-- One token of a value that is passed over. -/
theorem skipWithin_eq (brackets : List Bracket) :
    skipWithin e brackets p =
      match skipToken e brackets p with
      | .error f => .error f
      | .ok (.over q) => .ok q
      | .ok (.inside brackets q) => skipWithin e brackets q := by
  rw [skipWithin]
  split <;> simp_all

theorem extends_skipWithin (e d : Ending) (brackets : List Bracket) (p s : List UInt8) :
    Extends true e p s (skipWithin e brackets p) (skipWithin d brackets (p ++ s)) := by
  have h := extends_skipToken e d p s brackets
  rw [skipWithin_eq, skipWithin_eq]
  generalize hx : skipToken e brackets p = x at h ⊢
  generalize skipToken d brackets (p ++ s) = y at h ⊢
  cases h with
  | fails f => exact .fails f
  | waits hf => exact .waits hf
  | same r hr =>
    rcases r with q | ⟨inner, q⟩
    · exact .same q hr
    · have : q.length < p.length := (length_skipToken hx).2 (.inr (by simp))
      exact (extends_skipWithin e d inner q s).mono hr
  | @goesOn _ he r hr =>
    rcases r with q | ⟨inner, q⟩
    · exact .goesOn rfl he (r := q) hr
    · have : q.length < p.length := (length_skipToken hx).2 (.inr (by simp))
      exact (extends_skipWithin e d inner q s).of_nil he hr
termination_by p.length

theorem extends_skipValue : Extends true e p s (skipValue e p) (skipValue d (p ++ s)) :=
  extends_skipWithin e d [] p s

end BucketDigest.Json
