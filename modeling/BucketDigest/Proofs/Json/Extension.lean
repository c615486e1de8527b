import Mathlib.Data.List.Infix
import BucketDigest.Json.Text

/-!
# Octets that are followed by others

What is read of some octets does not change when others follow, unless the reader was still waiting
for them. `Extends` relates what is read of octets `p`, from a source that then ends in one way, to
what is read of `p ++ s`, from a source that ends in another.

* `Extends.step`, `Extends.skip`, `Extends.chain`: readers one after the other.
* `extends_next`, `extends_readWord`, `extends_readQuoted`: octets, words and texts.
-/
namespace BucketDigest.Json

/-! ## What is left -/

/-- Results that hold the octets that are left. -/
class Remainder (ρ : Type) where
  rest : ρ → List UInt8
  append : ρ → List UInt8 → ρ

export Remainder (rest append)

instance : Remainder (List UInt8) := ⟨id, (· ++ ·)⟩

instance {α : Type} : Remainder (α × List UInt8) := ⟨Prod.snd, fun r s => (r.1, r.2 ++ s)⟩

theorem rest_pair {α : Type} (a : α) (q : List UInt8) : rest (a, q) = q := rfl

theorem append_pair {α : Type} (a : α) (q s : List UInt8) : append (a, q) s = (a, q ++ s) := rfl

/-- A fault that the end of the source may have brought about. If the source fails, that is only its
own failure; if it is closed, it is any fault. -/
def Ending.Blames (e : Ending) (f : Fault) : Prop :=
  ∀ reason, e = .failing reason → f = .device reason

theorem Ending.blames_fault (e : Ending) (place : Place) : e.Blames (e.fault place) := by
  intro reason h
  rw [h]
  rfl

theorem Ending.blames_closed (f : Fault) : Ending.closed.Blames f := nofun

/-! ## Results for octets and for more of them -/

/-- What is read of `p`, from a source that ends in `e`, and what is read when `s` follows. A reader
is loose if what it reads may go on where the octets end, as a number may. -/
inductive Extends {ρ : Type} [Remainder ρ] (loose : Bool) (e : Ending) (p s : List UInt8) :
    Except Fault ρ → Except Fault ρ → Prop
  /-- What follows is left over. -/
  | same (r : ρ) (h : rest r <:+ p) : Extends loose e p s (.ok r) (.ok (append r s))
  /-- What follows is not looked at. -/
  | fails (f : Fault) : Extends loose e p s (.error f) (.error f)
  /-- What follows may tell. -/
  | waits {f : Fault} (h : e.Blames f) {y : Except Fault ρ} : Extends loose e p s (.error f) y
  | goesOn (hloose : loose = true) (he : e = .closed) {r : ρ} (hr : rest r = [])
      {y : Except Fault ρ} : Extends loose e p s (.ok r) y

namespace Extends

variable {ρ σ α : Type} [Remainder ρ] [Remainder σ] {loose : Bool} {e : Ending}
  {p q s : List UInt8}

theorem mono {x y : Except Fault ρ} (h : Extends loose e q s x y) (hq : q <:+ p) :
    Extends loose e p s x y := by
  cases h with
  | same r h => exact .same r (h.trans hq)
  | fails f => exact .fails f
  | waits h => exact .waits h
  | goesOn hloose he hr => exact .goesOn hloose he hr

/-- From a source that is closed, a fault may always be due to the end. -/
theorem of_closed {y : Except Fault ρ} (he : e = .closed) {f : Fault} :
    Extends loose e p s (.error f) y :=
  .waits (he ▸ Ending.blames_closed f)

/-- Where the source is closed and no octets are left, nothing is known of what follows. -/
theorem of_nil {x y z : Except Fault ρ} (h : Extends true e q s x y) (he : e = .closed)
    (hq : q = []) : Extends true e p s x z := by
  cases h with
  | same r h => exact .goesOn rfl he (List.suffix_nil.1 (hq ▸ h))
  | fails f => exact .waits (he ▸ Ending.blames_closed f)
  | waits h => exact .waits h
  | goesOn hloose he hr => exact .goesOn rfl he hr

/-- What has been read stays as it is. -/
theorem of_ok {r : ρ} {y : Except Fault ρ} (h : Extends false e p s (.ok r) y) :
    rest r <:+ p ∧ y = .ok (append r s) := by
  cases h with
  | same r h => exact ⟨h, rfl⟩
  | goesOn hloose => cases hloose

/-- A fault that the end has not brought about stays as it is. -/
theorem of_error {f : Fault} {y : Except Fault ρ} (h : Extends loose e p s (.error f) y) :
    e.Blames f ∨ y = .error f := by
  cases h with
  | fails => exact .inr rfl
  | waits h => exact .inl h

/-- From a source that fails, no reader is loose. -/
theorem tight {reason : String} {x y : Except Fault ρ}
    (h : Extends true (.failing reason) p s x y) : Extends false (.failing reason) p s x y := by
  cases h with
  | same r h => exact .same r h
  | fails f => exact .fails f
  | waits h => exact .waits h
  | goesOn hloose he hr => cases he

/-- A reader, and then others that go by what it has read. -/
@[elab_as_elim]
theorem step {motive : Except Fault (α × List UInt8) → Except Fault (α × List UInt8) → Prop}
    {x y : Except Fault (α × List UInt8)} (h : Extends false e p s x y)
    (fails : ∀ f, motive (.error f) (.error f))
    (waits : ∀ f, e.Blames f → ∀ y, motive (.error f) y)
    (same : ∀ a q, q <:+ p → motive (.ok (a, q)) (.ok (a, q ++ s))) : motive x y := by
  cases h with
  | same r h => exact same r.1 r.2 h
  | fails f => exact fails f
  | waits h => exact waits _ h _
  | goesOn hloose => cases hloose

/-- The same for readers that are bound. -/
theorem bind {x y : Except Fault (α × List UInt8)} (h : Extends false e p s x y)
    {F G : α × List UInt8 → Except Fault σ}
    (hF : ∀ a q, Extends loose e q s (F (a, q)) (G (a, q ++ s))) :
    Extends loose e p s (x >>= F) (y >>= G) :=
  h.step .fails (fun _ h _ => .waits h) fun a q hq => (hF a q).mono hq

/-- A reader that passes over something, and then others. -/
@[elab_as_elim]
theorem skip {motive : Except Fault (List UInt8) → Except Fault (List UInt8) → Prop}
    {x y : Except Fault (List UInt8)} (h : Extends false e p s x y)
    (fails : ∀ f, motive (.error f) (.error f))
    (waits : ∀ f, e.Blames f → ∀ y, motive (.error f) y)
    (same : ∀ q, q <:+ p → motive (.ok q) (.ok (q ++ s))) : motive x y := by
  cases h with
  | same r h => exact same r h
  | fails f => exact fails f
  | waits h => exact waits _ h _
  | goesOn hloose => cases hloose

/-- A reader that may be loose, and then others. -/
@[elab_as_elim]
theorem chain {motive : Except Fault ρ → Except Fault ρ → Prop} {x y : Except Fault ρ}
    (h : Extends true e p s x y)
    (fails : ∀ f, motive (.error f) (.error f))
    (waits : ∀ f, e.Blames f → ∀ y, motive (.error f) y)
    (same : ∀ r, rest r <:+ p → motive (.ok r) (.ok (append r s)))
    (goesOn : e = .closed → ∀ r, rest r = [] → ∀ y, motive (.ok r) y) : motive x y := by
  cases h with
  | same r h => exact same r h
  | fails f => exact fails f
  | waits h => exact waits _ h _
  | goesOn _ he hr => exact goesOn he _ hr _

/-- What is made of a result does not depend on what is left. -/
theorem map {x y : Except Fault ρ} (h : Extends loose e p s x y) {F : ρ → σ}
    (hrest : ∀ r, rest (F r) = rest r) (happend : ∀ r, F (append r s) = append (F r) s) :
    Extends loose e p s (x.map F) (y.map F) := by
  cases h with
  | same r h =>
    show Extends loose e p s (.ok (F r)) (.ok (F (append r s)))
    rw [happend]
    exact .same _ (by rwa [hrest])
  | fails f => exact .fails f
  | waits h => exact .waits h
  | goesOn hloose he hr => exact .goesOn hloose he ((hrest _).trans hr)

end Extends

variable (loose : Bool) (e d : Ending) (p s : List UInt8)

/-! ## Octets -/

theorem skipSpace_append {p : List UInt8} (h : skipSpace p ≠ []) (s : List UInt8) :
    skipSpace (p ++ s) = skipSpace p ++ s := by
  induction p with
  | nil => exact absurd rfl h
  | cons b p ih =>
    unfold skipSpace at *
    rw [List.cons_append, List.dropWhile_cons, List.dropWhile_cons]
    split
    · next hb =>
      rw [List.dropWhile_cons, if_pos hb] at h
      exact ih h
    · rfl

/-- The first octet that is no white space, if there is one. -/
theorem next_cases (place : Place) :
    (∃ f, e.Blames f ∧ next e place p = .error f) ∨
      ∃ b q, b :: q <:+ p ∧ next e place p = .ok (b, q) ∧
        next d place (p ++ s) = .ok (b, q ++ s) := by
  have hsuffix : skipSpace p <:+ p := List.dropWhile_suffix isSpace
  unfold next
  cases hp : skipSpace p with
  | nil => exact .inl ⟨_, e.blames_fault place, rfl⟩
  | cons b q =>
    rw [skipSpace_append (by simp [hp]), hp]
    exact .inr ⟨b, q, hp ▸ hsuffix, rfl, rfl⟩

theorem extends_next (place : Place) :
    Extends loose e p s (next e place p) (next d place (p ++ s)) := by
  obtain ⟨f, hf, hp⟩ | ⟨b, q, hq, hp, hps⟩ := next_cases e d p s place
  · rw [hp]
    exact .waits hf
  · rw [hp, hps]
    exact .same (b, q) ((List.suffix_cons b q).trans hq)

theorem extends_readWord (cs : List Char) :
    Extends loose e p s (readWord e cs p) (readWord d cs (p ++ s)) := by
  induction cs generalizing p with
  | nil => exact .same p (List.suffix_refl p)
  | cons c cs ih =>
    cases p with
    | nil => exact .waits (e.blames_fault .value)
    | cons b p =>
      rw [List.cons_append, readWord, readWord]
      split
      · exact (ih p).mono (List.suffix_cons b p)
      · exact .fails _

/-! ## Texts -/

theorem extends_readHex : Extends loose e p s (readHex e p) (readHex d (p ++ s)) := by
  match p with
  | [] | [_] | [_, _] | [_, _, _] => exact .waits (e.blames_fault .text)
  | a :: b :: c :: f :: q =>
    simp only [List.cons_append, readHex]
    cases hexNumber? [a, b, c, f] with
    | none => exact .fails _
    | some n => exact .same (n, q) ⟨[a, b, c, f], rfl⟩

theorem extends_readMark (mark : UInt8) :
    Extends loose e p s (readMark e mark p) (readMark d mark (p ++ s)) := by
  cases p with
  | nil => exact .waits (e.blames_fault .text)
  | cons b p =>
    rw [List.cons_append, readMark, readMark]
    split
    · exact .same p (List.suffix_cons b p)
    · exact .fails _

theorem extends_readLowSurrogate (high : Nat) :
    Extends loose e p s (readLowSurrogate e high p) (readLowSurrogate d high (p ++ s)) := by
  unfold readLowSurrogate
  refine (extends_readMark false e d p s _).skip .fails (fun _ h _ => .waits h) fun q hq => ?_
  dsimp only
  refine .mono ?_ hq
  refine (extends_readMark false e d q s _).skip .fails (fun _ h _ => .waits h) fun q hq => ?_
  dsimp only
  refine .mono ?_ hq
  refine (extends_readHex false e d q s).step .fails (fun _ h _ => .waits h) fun low q hq => ?_
  dsimp only
  split
  · generalize Char.ofNat _ = c
    exact .same (c, q) hq
  · exact .fails _

theorem extends_readCodePoint :
    Extends loose e p s (readCodePoint e p) (readCodePoint d (p ++ s)) := by
  unfold readCodePoint
  refine (extends_readHex false e d p s).step .fails (fun _ h _ => .waits h) fun n q hq => ?_
  dsimp only
  split
  · exact .fails _
  · split
    · exact (extends_readLowSurrogate loose e d q s n).mono hq
    · exact .same (Char.ofNat n, q) hq

theorem extends_readEscape : Extends loose e p s (readEscape e p) (readEscape d (p ++ s)) := by
  cases p with
  | nil => exact .waits (e.blames_fault .text)
  | cons b p =>
    have hp := List.suffix_cons b p
    rw [List.cons_append, readEscape, readEscape]
    split
    · refine .mono ?_ hp
      refine (extends_readCodePoint false e d p s).step .fails (fun _ h _ => .waits h)
        fun c q hq => ?_
      exact .same (String.utf8EncodeChar c, q) hq
    · cases shortEscape? b with
      | none => exact .fails _
      | some o => exact .same ([o], p) hp

/-- One octet of a text. -/
theorem readOctets_cons (read : List UInt8) (b : UInt8) (p : List UInt8) :
    readOctets e read (b :: p) =
      if b = octet '"' then .ok (read.reverse, p)
      else if b = octet '\\' then
        match readEscape e p with
        | .error f => .error f
        | .ok (octets, q) => readOctets e (octets.reverse ++ read) q
      else if b < 0x20 then .error (.malformed .controlCharacter)
      else readOctets e (b :: read) p := by
  rw [readOctets]
  congr 2
  split <;> simp_all

theorem extends_readOctets (loose : Bool) (e d : Ending) (read p s : List UInt8) :
    Extends loose e p s (readOctets e read p) (readOctets d read (p ++ s)) := by
  cases p with
  | nil =>
    rw [readOctets]
    exact .waits (e.blames_fault .text)
  | cons b p =>
    have hp := List.suffix_cons b p
    rw [List.cons_append, readOctets_cons, readOctets_cons]
    split
    · exact .same (read.reverse, p) hp
    split
    · refine .mono ?_ hp
      refine (extends_readEscape false e d p s).step .fails (fun _ h _ => .waits h)
        fun octets q hq => ?_
      have := hq.length_le
      exact (extends_readOctets loose e d _ q s).mono hq
    split
    · exact .fails _
    · exact (extends_readOctets loose e d _ p s).mono hp
termination_by p.length
decreasing_by all_goals (simp only [List.length_cons]; omega)

theorem extends_readQuoted : Extends loose e p s (readQuoted e p) (readQuoted d (p ++ s)) := by
  unfold readQuoted
  refine (extends_readOctets false e d [] p s).step .fails (fun _ h _ => .waits h)
    fun octets q hq => ?_
  dsimp only
  cases Text.decode? octets with
  | none => exact .fails _
  | some text => exact .same (text, q) hq

end BucketDigest.Json
