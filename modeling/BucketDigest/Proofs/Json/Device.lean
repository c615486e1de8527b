import BucketDigest.Json.Members

/-!
# Faults of the device

A document can be at fault in many ways, but the device that it comes from is only blamed where the
source fails, and then with the reason of the source. This holds of every reader (`Honest`), since
they ask for octets in the same few ways.

* `Honest.step`, `Honest.bind`, `Honest.map`: readers one after the other.
* `honest_next`, `honest_readQuoted`, `honest_readNumber`, `honest_skipValue`: tokens and values.
* `honest_nextElement`, `honest_nextKey`, `honest_readOnce`: lists and objects.
-/
namespace BucketDigest.Json

/-- If a fault is one of the device, then it is the one that the source ends in. -/
def Ending.Owns (e : Ending) (f : Fault) : Prop :=
  ∀ reason, f = .device reason → e = .failing reason

/-- A result blames the device only for what the source ends in. -/
def Honest {ρ : Type} (e : Ending) (x : Except Fault ρ) : Prop :=
  ∀ f, x = .error f → e.Owns f

namespace Honest

variable {ρ σ : Type} {e : Ending} {x : Except Fault ρ}

theorem ok (r : ρ) : Honest e (.ok r) := nofun

theorem error {f : Fault} (h : e.Owns f) : Honest e (.error f : Except Fault ρ) := by
  rintro _ ⟨⟩
  exact h

theorem malformed (flaw : Flaw) : Honest e (.error (.malformed flaw) : Except Fault ρ) :=
  .error nofun

theorem unfit (misfit : Misfit) : Honest e (.error (.unfit misfit) : Except Fault ρ) :=
  .error nofun

/-- Asking for an octet at the end. -/
theorem fault (e : Ending) (place : Place) :
    Honest e (.error (e.fault place) : Except Fault ρ) := by
  refine .error fun reason h => ?_
  cases e with
  | closed => cases h
  | failing reason' => cases h; rfl

/-- A reader, and then others that go by what it has read. -/
@[elab_as_elim]
theorem step {motive : Except Fault ρ → Prop} (h : Honest e x)
    (fails : ∀ f, e.Owns f → motive (.error f)) (reads : ∀ r, motive (.ok r)) : motive x := by
  cases x with
  | error f => exact fails f (h f rfl)
  | ok r => exact reads r

/-- The same for readers that are bound. -/
theorem bind (h : Honest e x) {F : ρ → Except Fault σ} (hF : ∀ r, Honest e (F r)) :
    Honest e (x >>= F) :=
  h.step (fun _ hf => .error hf) hF

theorem map (h : Honest e x) (F : ρ → σ) : Honest e (x.map F) :=
  h.step (fun _ hf => .error hf) fun _ => .ok _

end Honest

variable (e : Ending) (s : List UInt8)

/-! ## Octets -/

theorem honest_next (place : Place) : Honest e (next e place s) := by
  unfold next
  split
  · exact .fault e place
  · exact .ok _

theorem honest_peek : Honest e (peek e s) := by
  unfold peek
  split
  · exact .fault (.failing _) .value
  · exact .ok _

theorem honest_readWord (cs : List Char) : Honest e (readWord e cs s) := by
  fun_induction readWord e cs s with
  | case1 => exact .ok _
  | case2 => exact .fault e .value
  | case3 _ _ _ ih => exact ih
  | case4 => exact .malformed _

theorem honest_finish : Honest e (finish e s) := by
  unfold finish
  split
  · exact honest_peek e []
  · exact .malformed _

/-! ## Texts -/

theorem honest_readHex : Honest e (readHex e s) := by
  unfold readHex
  split
  · split
    · exact .ok _
    · exact .malformed _
  · exact .fault e .text

theorem honest_readMark (mark : UInt8) : Honest e (readMark e mark s) := by
  unfold readMark
  split
  · exact .fault e .text
  · split
    · exact .ok _
    · exact .malformed _

theorem honest_readLowSurrogate (high : Nat) : Honest e (readLowSurrogate e high s) := by
  unfold readLowSurrogate
  refine (honest_readMark e s _).step (fun _ h => .error h) fun s => ?_
  dsimp only
  refine (honest_readMark e s _).step (fun _ h => .error h) fun s => ?_
  dsimp only
  refine (honest_readHex e s).step (fun _ h => .error h) fun ⟨low, s⟩ => ?_
  dsimp only
  split
  · exact .ok _
  · exact .malformed _

theorem honest_readCodePoint : Honest e (readCodePoint e s) := by
  unfold readCodePoint
  refine (honest_readHex e s).step (fun _ h => .error h) fun ⟨n, s⟩ => ?_
  dsimp only
  split
  · exact .malformed _
  split
  · exact honest_readLowSurrogate e s n
  · exact .ok _

theorem honest_readEscape : Honest e (readEscape e s) := by
  unfold readEscape
  split
  · exact .fault e .text
  split
  · exact (honest_readCodePoint e _).step (fun _ h => .error h) fun _ => .ok _
  split
  · exact .ok _
  · exact .malformed _

theorem honest_readOctets (read : List UInt8) : Honest e (readOctets e read s) := by
  fun_induction readOctets e read s with
  | case1 => exact .fault e .text
  | case2 => exact .ok _
  | case3 _ s f h => exact .error (honest_readEscape e s f h)
  | case4 _ _ _ _ _ _ ih => exact ih
  | case5 => exact .malformed _
  | case6 _ _ _ _ _ _ ih => exact ih

theorem honest_readQuoted : Honest e (readQuoted e s) := by
  unfold readQuoted
  refine (honest_readOctets e s []).step (fun _ h => .error h) fun ⟨octets, s⟩ => ?_
  dsimp only
  split
  · exact .ok _
  · exact .malformed _

/-! ## Numbers -/

theorem honest_signed (negative : Bool) (x : Option Decimal.Binary64) :
    Honest e (signed negative x) := by
  cases x with
  | none => exact .malformed _
  | some x => exact .ok _

theorem honest_readSign : Honest e (readSign e s) := by
  unfold readSign
  split
  · exact (honest_peek e []).map _
  split
  · exact .ok _
  split
  · exact .ok _
  · exact .ok _

theorem honest_readExponentDigits (n : Nat) : Honest e (readExponentDigits e n s) := by
  fun_induction readExponentDigits e n s with
  | case1 => exact (honest_peek e []).map _
  | case2 _ _ _ _ _ ih => exact ih
  | case3 => exact .ok _
  | case4 => exact .ok _

theorem honest_readExponent (negative : Bool) (n : Nat) (power : Int) :
    Honest e (readExponent e negative n power s) := by
  unfold readExponent
  refine (honest_readSign e s).bind fun ⟨down, s⟩ => ?_
  cases s with
  | nil => exact .fault e .value
  | cons b s =>
    dsimp only [bind, Except.bind]
    split
    · exact .malformed _
    refine (honest_readExponentDigits e s _).step (fun _ h => .error h) fun ⟨exponent, s⟩ => ?_
    cases exponent with
    | some exponent => exact (honest_signed e negative _).bind fun _ => .ok _
    | none =>
      dsimp only
      split
      · exact .malformed _
      refine (honest_peek e _).step (fun _ h => .error h) fun _ => ?_
      exact (honest_signed e negative _).step (fun _ h => .error h) fun _ => .ok _

theorem honest_readFraction (negative : Bool) (n : Nat) (power : Int) :
    Honest e (readFraction e negative n power s) := by
  unfold readFraction
  obtain ⟨ds, s⟩ := spanDigits s
  refine (honest_peek e s).bind fun _ => ?_
  dsimp only
  split
  · exact .fault e .value
  · exact .malformed _
  split
  · split
    · exact honest_readExponent e _ negative _ _
    · exact (honest_signed e negative _).bind fun _ => .ok _
  · exact (honest_signed e negative _).bind fun _ => .ok _

theorem honest_readNumber (negative : Bool) : Honest e (readNumber e negative s) := by
  unfold readNumber
  cases s with
  | nil => exact .fault e .value
  | cons b s =>
    dsimp only [bind, Except.bind]
    split
    · exact .malformed _
    generalize (if b = octet '0' then ([], s) else spanDigits s) = span
    obtain ⟨ds, s⟩ := span
    refine (honest_peek e s).step (fun _ h => .error h) fun _ => ?_
    dsimp only
    split
    · split
      · exact .malformed _
      split
      · exact honest_readFraction e _ negative _ _
      split
      · exact honest_readExponent e _ negative _ _
      split
      · exact .ok _
      · exact (honest_signed e negative _).bind fun _ => .ok _
    · split
      · exact .ok _
      · exact (honest_signed e negative _).bind fun _ => .ok _

/-! ## Values that were not expected -/

theorem honest_readFound (b : UInt8) : Honest e (readFound e b s) := by
  unfold readFound
  split
  · exact (honest_readWord e s _).map _
  split
  · exact (honest_readWord e s _).map _
  split
  · exact (honest_readWord e s _).map _
  split
  · exact (honest_readQuoted e s).map _
  split
  · exact .ok _
  split
  · exact .ok _
  · refine Honest.map ?_ _
    split
    · exact honest_readNumber e s true
    split
    · exact honest_readNumber e (b :: s) false
    · exact .malformed _

theorem honest_wrongType {ρ : Type} (expected : String) (b : UInt8) :
    Honest e (.error (wrongType e expected b s) : Except Fault ρ) := by
  unfold wrongType
  split
  · exact .unfit _
  · next fault h => exact .error (honest_readFound e s b fault h)

/-! ## Values that are passed over -/

theorem honest_skipEscape : Honest e (skipEscape e s) := by
  unfold skipEscape
  split
  · exact .fault e .text
  split
  · exact (honest_readHex e _).step (fun _ h => .error h) fun _ => .ok _
  split
  · exact .ok _
  · exact .malformed _

theorem honest_skipQuoted : Honest e (skipQuoted e s) := by
  fun_induction skipQuoted e s with
  | case1 => exact .fault e .text
  | case2 => exact .ok _
  | case3 s f h => exact .error (honest_skipEscape e s f h)
  | case4 _ _ _ _ ih => exact ih
  | case5 => exact .malformed _
  | case6 _ _ _ _ _ ih => exact ih

theorem honest_skipDigits : Honest e (skipDigits e s) := by
  unfold skipDigits
  refine (honest_peek e _).step (fun _ h => .error h) fun _ => ?_
  dsimp only
  split
  · exact .malformed _
  · exact .ok _

theorem honest_skipExponent : Honest e (skipExponent e s) := by
  unfold skipExponent
  split
  · exact (honest_peek e []).map _
  split
  · exact (honest_readSign e _).step (fun _ h => .error h) fun _ => honest_skipDigits e _
  · exact .ok _

theorem honest_skipFraction : Honest e (skipFraction e s) := by
  unfold skipFraction
  split
  · exact honest_skipExponent e []
  split
  · exact (honest_skipDigits e _).step (fun _ h => .error h) fun _ => honest_skipExponent e _
  · exact honest_skipExponent e _

theorem honest_skipWhole : Honest e (skipWhole e s) := by
  unfold skipWhole
  split
  · exact honest_skipDigits e []
  split
  · split
    · exact .malformed _
    · exact .ok _
  · exact honest_skipDigits e _

theorem honest_skipNumber : Honest e (skipNumber e s) := by
  unfold skipNumber
  exact (honest_skipWhole e s).step (fun _ h => .error h) fun _ => honest_skipFraction e _

theorem honest_skipScalar (b : UInt8) : Honest e (skipScalar e b s) := by
  unfold skipScalar
  split
  · exact honest_readWord e s _
  split
  · exact honest_readWord e s _
  split
  · exact honest_readWord e s _
  split
  · exact honest_skipQuoted e s
  split
  · exact honest_skipNumber e s
  split
  · exact honest_skipNumber e (b :: s)
  · exact .malformed _

theorem honest_skipColon : Honest e (skipColon e s) := by
  unfold skipColon
  refine (honest_next e s _).step (fun _ h => .error h) fun ⟨b, s⟩ => ?_
  dsimp only
  split
  · exact .ok _
  · exact .malformed _

theorem honest_skipKey : Honest e (skipKey e s) := by
  unfold skipKey
  refine (honest_next e s _).step (fun _ h => .error h) fun ⟨b, s⟩ => ?_
  dsimp only
  split
  · exact (honest_skipQuoted e s).step (fun _ h => .error h) fun s => honest_skipColon e s
  · exact .malformed _

theorem honest_enterItem (b : Bracket) (outer : List Bracket) :
    Honest e (enterItem e b outer s) := by
  cases b with
  | list => exact .ok _
  | object => exact (honest_skipKey e s).map _

theorem honest_afterItem (brackets : List Bracket) : Honest e (afterItem e brackets s) := by
  induction brackets generalizing s with
  | nil => exact .ok _
  | cons b outer ih =>
    rw [afterItem]
    refine (honest_next e s _).step (fun _ h => .error h) fun r => ?_
    obtain ⟨c, s⟩ := r
    dsimp only
    split
    · exact honest_enterItem e s b outer
    split
    · exact ih s
    · exact .malformed _

theorem honest_afterOpening (b : Bracket) (outer : List Bracket) :
    Honest e (afterOpening e b outer s) := by
  unfold afterOpening
  refine (honest_next e s _).step (fun _ h => .error h) fun ⟨c, rest⟩ => ?_
  dsimp only
  split
  · exact honest_afterItem e rest outer
  · exact honest_enterItem e s b outer

theorem honest_skipToken (brackets : List Bracket) : Honest e (skipToken e brackets s) := by
  unfold skipToken
  refine (honest_next e s _).step (fun _ h => .error h) fun ⟨b, s⟩ => ?_
  dsimp only
  split
  · exact honest_afterOpening e s _ brackets
  split
  · exact honest_afterOpening e s _ brackets
  · exact (honest_skipScalar e s b).step (fun _ h => .error h) fun s =>
      honest_afterItem e s brackets

theorem honest_skipValue : Honest e (skipValue e s) := by
  unfold skipValue
  fun_induction skipWithin e [] s with
  | case1 brackets s f h => exact .error (honest_skipToken e s brackets f h)
  | case2 => exact .ok _
  | case3 _ _ _ _ _ ih => exact ih

/-! ## Lists and objects -/

theorem honest_nextElement (first : Bool) : Honest e (nextElement e first s) := by
  unfold nextElement
  refine (honest_next e s _).step (fun _ h => .error h) fun ⟨b, rest⟩ => ?_
  dsimp only
  split
  · exact .ok _
  split
  · exact .ok _
  split
  · refine (honest_next e rest _).step (fun _ h => .error h) fun ⟨c, _⟩ => ?_
    dsimp only
    split
    · exact .malformed _
    · exact .ok _
  · exact .malformed _

theorem honest_endList : Honest e (endList e s) := by
  unfold endList
  refine (honest_next e s _).step (fun _ h => .error h) fun ⟨b, rest⟩ => ?_
  dsimp only
  split
  · exact .ok _
  split
  · exact .malformed _
  · exact .malformed _

theorem honest_readKey : Honest e (readKey e s) := by
  unfold readKey
  exact (honest_readQuoted e s).step (fun _ h => .error h) fun _ => .ok _

theorem honest_nextKey (first : Bool) : Honest e (nextKey e first s) := by
  unfold nextKey
  refine (honest_next e s _).step (fun _ h => .error h) fun ⟨b, rest⟩ => ?_
  dsimp only
  split
  · exact .ok _
  split
  · split
    · exact honest_readKey e rest
    · exact .malformed _
  split
  · refine (honest_next e rest _).step (fun _ h => .error h) fun ⟨c, rest⟩ => ?_
    dsimp only
    split
    · exact honest_readKey e rest
    split
    · exact .malformed _
    · exact .malformed _
  · exact .malformed _

/-! ## Values of a given type -/

theorem honest_readTextAt (b : UInt8) : Honest e (readTextAt e b s) := by
  unfold readTextAt
  split
  · exact honest_readQuoted e s
  · exact honest_wrongType e s _ b

theorem honest_readText : Honest e (readText e s) := by
  unfold readText
  exact (honest_next e s _).step (fun _ h => .error h) fun ⟨b, s⟩ => honest_readTextAt e s b

theorem honest_readOptionalText : Honest e (readOptionalText e s) := by
  unfold readOptionalText
  refine (honest_next e s _).step (fun _ h => .error h) fun ⟨b, s⟩ => ?_
  dsimp only
  split
  · exact (honest_readWord e s _).step (fun _ h => .error h) fun _ => .ok _
  · exact (honest_readTextAt e s b).step (fun _ h => .error h) fun _ => .ok _

theorem honest_readOnce {α : Type} {name : String} {present : Option α}
    {read : List UInt8 → Except Fault (α × List UInt8)} (h : ∀ s, Honest e (read s)) :
    Honest e (readOnce e name present read s) := by
  unfold readOnce
  split
  · exact .unfit _
  · exact (honest_skipColon e s).step (fun _ h => .error h) fun s => h s

end BucketDigest.Json
