import Mathlib.Data.List.TakeWhile
import BucketDigest.Proofs.Json.Extension.Skip
import BucketDigest.Proofs.Json.Members

/-!
# Lists and objects that are followed by others

* `extends_readFound`, `extends_wrongType`: values that were not expected.
* `extends_nextElement`, `extends_nextKey`: steps through a list or an object.
* `extends_readText`, `extends_readOptionalText`, `extends_readOnce`: values of a given type.
-/
namespace BucketDigest.Json

variable (loose : Bool) (e d : Ending) (reason : String) (p s : List UInt8)

/-! ## White space -/

theorem skipSpace_of_allSpace {sp : List UInt8} (h : AllSpace sp) :
    skipSpace (sp ++ s) = skipSpace s :=
  List.dropWhile_append_of_pos h

/-- What stands before the first octet that is no white space. -/
theorem next_eq_ok_iff {e : Ending} {place : Place} {p q : List UInt8} {b : UInt8} :
    next e place p = .ok (b, q) ↔
      isSpace b = false ∧ ∃ sp, AllSpace sp ∧ p = sp ++ b :: q := by
  constructor
  · intro h
    have hsplit : p.takeWhile isSpace ++ skipSpace p = p := List.takeWhile_append_dropWhile
    unfold next at h
    cases hp : skipSpace p with
    | nil => rw [hp] at h; cases h
    | cons c r =>
      rw [hp] at h hsplit
      cases h
      have hfind : p.find? (fun x => !isSpace x) = some b :=
        (List.find?_not_eq_head?_dropWhile isSpace p).trans (congrArg List.head? hp)
      have hb := List.find?_some hfind
      exact ⟨by simpa using hb, _, fun _ => List.mem_takeWhile_imp, hsplit.symm⟩
  · rintro ⟨hb, sp, hsp, rfl⟩
    exact next_append hsp hb place q

/-! ## Values that were not expected -/

theorem extends_readFound (b : UInt8) :
    Extends false (.failing reason) (b :: p) s (readFound (.failing reason) b p)
      (readFound d b (p ++ s)) := by
  have hp := List.suffix_cons b p
  have hword (cs : List Char) (found : Found) :
      Extends false (.failing reason) (b :: p) s
        ((readWord (.failing reason) cs p).map fun q => (found, q))
        ((readWord d cs (p ++ s)).map fun q => (found, q)) :=
    ((extends_readWord false (.failing reason) d p s cs).mono hp).map (fun _ => rfl) fun _ => rfl
  unfold readFound
  split
  · exact hword _ _
  split
  · exact hword _ _
  split
  · exact hword _ _
  split
  · exact ((extends_readQuoted false (.failing reason) d p s).mono hp).map (fun _ => rfl)
      fun _ => rfl
  split
  · exact .same (Found.list, p) hp
  split
  · exact .same (Found.object, p) hp
  · refine Extends.map ?_ ?_ ?_
    · split
      · exact (extends_readNumber d reason p s true).mono hp
      split
      · exact extends_readNumber d reason (b :: p) s false
      · exact .fails _
    · rintro ⟨n, q⟩
      cases n <;> rfl
    · rintro ⟨n, q⟩
      cases n <;> rfl

theorem extends_wrongType {ρ : Type} [Remainder ρ] (expected : String) (b : UInt8) :
    Extends (ρ := ρ) loose e p s (.error (wrongType e expected b p))
      (.error (wrongType d expected b (p ++ s))) := by
  cases e with
  | closed => exact .of_closed rfl
  | failing reason =>
    have h := extends_readFound d reason p s b
    unfold wrongType
    generalize readFound (.failing reason) b p = x at h ⊢
    generalize readFound d b (p ++ s) = y at h ⊢
    cases h with
    | same r h => exact .fails _
    | fails f => exact .fails _
    | waits h => exact .waits h
    | goesOn hloose => cases hloose

/-! ## Steps -/

theorem extends_nextElement (first : Bool) :
    Extends loose e p s (nextElement e first p) (nextElement d first (p ++ s)) := by
  unfold nextElement
  refine (extends_next false e d p s _).step .fails (fun _ h _ => .waits h) fun b q hq => ?_
  dsimp only
  split
  · exact .same (false, q) hq
  split
  · exact .same (true, p) (List.suffix_refl _)
  split
  · refine .mono ?_ hq
    refine (extends_next false e d q s _).step .fails (fun _ h _ => .waits h) fun c r hr => ?_
    dsimp only
    split
    · exact .fails _
    · exact .same (true, q) (List.suffix_refl _)
  · exact .fails _

theorem extends_readKey : Extends loose e p s (readKey e p) (readKey d (p ++ s)) := by
  unfold readKey
  refine (extends_readQuoted false e d p s).step .fails (fun _ h _ => .waits h) fun key q hq => ?_
  exact .same (some key, q) hq

theorem extends_nextKey (first : Bool) :
    Extends loose e p s (nextKey e first p) (nextKey d first (p ++ s)) := by
  unfold nextKey
  refine (extends_next false e d p s _).step .fails (fun _ h _ => .waits h) fun b q hq => ?_
  refine .mono ?_ hq
  dsimp only
  split
  · exact .same (none, q) (List.suffix_refl _)
  split
  · split
    · exact extends_readKey loose e d q s
    · exact .fails _
  split
  · refine (extends_next false e d q s _).step .fails (fun _ h _ => .waits h) fun c r hr => ?_
    dsimp only
    split
    · exact (extends_readKey loose e d r s).mono hr
    split
    · exact .fails _
    · exact .fails _
  · exact .fails _

/-! ## Values of a given type -/

theorem extends_readTextAt (b : UInt8) :
    Extends loose e p s (readTextAt e b p) (readTextAt d b (p ++ s)) := by
  unfold readTextAt
  split
  · exact extends_readQuoted loose e d p s
  · exact extends_wrongType loose e d p s _ b

theorem extends_readText : Extends loose e p s (readText e p) (readText d (p ++ s)) := by
  unfold readText
  refine (extends_next false e d p s _).step .fails (fun _ h _ => .waits h) fun b q hq => ?_
  exact (extends_readTextAt loose e d q s b).mono hq

theorem extends_readOptionalText :
    Extends loose e p s (readOptionalText e p) (readOptionalText d (p ++ s)) := by
  unfold readOptionalText
  refine (extends_next false e d p s _).step .fails (fun _ h _ => .waits h) fun b q hq => ?_
  refine .mono ?_ hq
  dsimp only
  split
  · refine (extends_readWord false e d q s _).skip .fails (fun _ h _ => .waits h) fun r hr => ?_
    exact .same (none, r) hr
  · refine (extends_readTextAt false e d q s b).step .fails (fun _ h _ => .waits h)
      fun text r hr => ?_
    exact .same (some text, r) hr

theorem extends_readOnce {α : Type} {name : String} {present : Option α}
    {read readMore : List UInt8 → Except Fault (α × List UInt8)}
    (h : ∀ q, Extends loose e q s (read q) (readMore (q ++ s))) :
    Extends loose e p s (readOnce e name present read p)
      (readOnce d name present readMore (p ++ s)) := by
  unfold readOnce
  split
  · exact .fails _
  · refine (extends_skipColon false e d p s).skip .fails (fun _ h _ => .waits h) fun q hq => ?_
    exact (h q).mono hq

end BucketDigest.Json
