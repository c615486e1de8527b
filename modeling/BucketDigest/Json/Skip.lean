import BucketDigest.Json.Number
import BucketDigest.Json.Text

/-!
# Passing over values

A value that nobody asks for is passed over to any depth. It has to be built from the right tokens,
but numbers are not evaluated and texts are not decoded.

* `skipValue`: what is left after a value.
-/
namespace BucketDigest.Json

/-- An open bracket. -/
inductive Bracket
  | list
  | object
  deriving DecidableEq

namespace Bracket

/-- The octet that closes a bracket. -/
def closing : Bracket → UInt8
  | .list => octet ']'
  | .object => octet '\x7d'

/-- Where a document is cut off that ends inside a bracket. -/
def place : Bracket → Place
  | .list => .list
  | .object => .object

/-- The flaw of anything else between two members. -/
def flaw : Bracket → Flaw
  | .list => .expectedCommaOrBracket
  | .object => .expectedCommaOrBrace

end Bracket

/-! ## Texts -/

/-- Passes over what follows a backslash. -/
def skipEscape (e : Ending) : List UInt8 → Except Fault (List UInt8)
  | [] => .error (e.fault .text)
  | b :: s =>
    if b = octet 'u' then
      match readHex e s with
      | .error f => .error f
      | .ok (_, rest) => .ok rest
    else if (shortEscape? b).isSome then .ok s
    else .error (.malformed .invalidEscape)

theorem length_skipEscape_lt {e : Ending} {s rest : List UInt8} (h : skipEscape e s = .ok rest) :
    rest.length < s.length := by
  unfold skipEscape at h
  split at h
  · simp at h
  · split at h
    · split at h
      · simp at h
      · next h₁ =>
        have := length_readHex_le h₁
        simp only [Except.ok.injEq] at h
        rw [← h, List.length_cons]
        omega
    · split at h <;> simp_all

/-- Passes over a text after its opening quote. -/
def skipQuoted (e : Ending) : List UInt8 → Except Fault (List UInt8)
  | [] => .error (e.fault .text)
  | b :: s =>
    if b = octet '"' then .ok s
    else if b = octet '\\' then
      match _h : skipEscape e s with
      | .error f => .error f
      | .ok rest => skipQuoted e rest
    else if b < 0x20 then .error (.malformed .controlCharacter)
    else skipQuoted e s
termination_by s => s.length
decreasing_by
  · have := length_skipEscape_lt ‹_›
    simp only [List.length_cons]
    omega
  · simp

theorem length_skipQuoted_lt {e : Ending} {s rest : List UInt8} (h : skipQuoted e s = .ok rest) :
    rest.length < s.length := by
  fun_induction skipQuoted e s with
  | case1 => simp at h
  | case2 => simp_all
  | case3 => simp at h
  | case4 s _ h' _ ih =>
    have := ih h
    have := length_skipEscape_lt h'
    simp only [List.length_cons]
    omega
  | case5 => simp at h
  | case6 b s _ _ _ ih =>
    have := ih h
    simp only [List.length_cons]
    omega

/-! ## Numbers -/

theorem length_spanDigits_le (s : List UInt8) : (spanDigits s).2.length ≤ s.length :=
  (List.dropWhile_sublist isDigit).length_le

/-- Passes over digits, of which at least one has to be there. -/
def skipDigits (e : Ending) (s : List UInt8) : Except Fault (List UInt8) :=
  match peek e (spanDigits s).2 with
  | .error f => .error f
  | .ok () =>
    if (spanDigits s).1 = [] then .error (.malformed .invalidNumber) else .ok (spanDigits s).2

theorem length_skipDigits_le {e : Ending} {s rest : List UInt8} (h : skipDigits e s = .ok rest) :
    rest.length ≤ s.length := by
  have := length_spanDigits_le s
  unfold skipDigits at h
  split at h
  · simp at h
  · split at h <;> simp_all

/-- Passes over an exponent, if there is one. -/
def skipExponent (e : Ending) (s : List UInt8) : Except Fault (List UInt8) :=
  match s with
  | [] => (peek e []).map fun _ => []
  | b :: rest =>
    if isExponentMark b then
      match readSign e rest with
      | .error f => .error f
      | .ok (_, rest) => skipDigits e rest
    else .ok (b :: rest)

theorem length_readSign_le {e : Ending} {s rest : List UInt8} {down : Bool}
    (h : readSign e s = .ok (down, rest)) : rest.length ≤ s.length := by
  unfold readSign at h
  split at h
  · cases hp : peek e [] <;> simp_all [Except.map]
  · split at h
    · simp_all
    · split at h <;> simp_all

theorem length_skipExponent_le {e : Ending} {s rest : List UInt8}
    (h : skipExponent e s = .ok rest) : rest.length ≤ s.length := by
  unfold skipExponent at h
  split at h
  · cases hp : peek e [] <;> simp_all [Except.map]
  · split at h
    · split at h
      · simp at h
      · next h₁ =>
        have := length_readSign_le h₁
        have := length_skipDigits_le h
        simp only [List.length_cons]
        omega
    · simp_all

/-- Passes over a fraction and an exponent, as far as they are there. -/
def skipFraction (e : Ending) (s : List UInt8) : Except Fault (List UInt8) :=
  match s with
  | [] => skipExponent e []
  | b :: rest =>
    if b = octet '.' then
      match skipDigits e rest with
      | .error f => .error f
      | .ok rest => skipExponent e rest
    else skipExponent e (b :: rest)

theorem length_skipFraction_le {e : Ending} {s rest : List UInt8}
    (h : skipFraction e s = .ok rest) : rest.length ≤ s.length := by
  unfold skipFraction at h
  split at h
  · exact length_skipExponent_le h
  · split at h
    · split at h
      · simp at h
      · next h₁ =>
        have := length_skipDigits_le h₁
        have := length_skipExponent_le h
        simp only [List.length_cons]
        omega
    · exact length_skipExponent_le h

/-- Whether the next octet is a digit. -/
def startsWithDigit : List UInt8 → Bool
  | [] => false
  | b :: _ => isDigit b

/-- Passes over the digits before the point: a zero stands alone. -/
def skipWhole (e : Ending) (s : List UInt8) : Except Fault (List UInt8) :=
  match s with
  | [] => skipDigits e []
  | b :: rest =>
    if b = octet '0' then
      if startsWithDigit rest then .error (.malformed .invalidNumber) else .ok rest
    else skipDigits e (b :: rest)

theorem length_skipWhole_le {e : Ending} {s rest : List UInt8} (h : skipWhole e s = .ok rest) :
    rest.length ≤ s.length := by
  unfold skipWhole at h
  split at h
  · exact length_skipDigits_le h
  · split at h
    · split at h <;> simp_all
    · exact length_skipDigits_le h

/-- Passes over a number without its sign. -/
def skipNumber (e : Ending) (s : List UInt8) : Except Fault (List UInt8) :=
  match skipWhole e s with
  | .error f => .error f
  | .ok rest => skipFraction e rest

theorem length_skipNumber_le {e : Ending} {s rest : List UInt8} (h : skipNumber e s = .ok rest) :
    rest.length ≤ s.length := by
  unfold skipNumber at h
  split at h
  · simp at h
  · next h₁ =>
    have := length_skipWhole_le h₁
    have := length_skipFraction_le h
    omega

/-! ## Values -/

/-- Passes over a value that is no list and no object, starting with the octet `b`. -/
def skipScalar (e : Ending) (b : UInt8) (s : List UInt8) : Except Fault (List UInt8) :=
  if b = octet 'n' then readWord e ['u', 'l', 'l'] s
  else if b = octet 't' then readWord e ['r', 'u', 'e'] s
  else if b = octet 'f' then readWord e ['a', 'l', 's', 'e'] s
  else if b = octet '"' then skipQuoted e s
  else if b = octet '-' then skipNumber e s
  else if isDigit b then skipNumber e (b :: s)
  else .error (.malformed .expectedValue)

theorem length_skipScalar_le {e : Ending} {b : UInt8} {s rest : List UInt8}
    (h : skipScalar e b s = .ok rest) : rest.length ≤ s.length + 1 := by
  unfold skipScalar at h
  repeat' split at h
  · have := length_readWord_le h; omega
  · have := length_readWord_le h; omega
  · have := length_readWord_le h; omega
  · have := length_skipQuoted_lt h; omega
  · have := length_skipNumber_le h; omega
  · have := length_skipNumber_le h; simpa using this
  · simp at h

/-- Passes over the colon between a key and a value. -/
def skipColon (e : Ending) (s : List UInt8) : Except Fault (List UInt8) :=
  match next e .object s with
  | .error f => .error f
  | .ok (b, s) => if b = octet ':' then .ok s else .error (.malformed .expectedColon)

theorem length_skipColon_lt {e : Ending} {s rest : List UInt8} (h : skipColon e s = .ok rest) :
    rest.length < s.length := by
  unfold skipColon at h
  split at h
  · simp at h
  · next h₁ =>
    have := length_next_lt h₁
    split at h <;> simp_all

/-- Passes over the key of a member and its colon. -/
def skipKey (e : Ending) (s : List UInt8) : Except Fault (List UInt8) :=
  match next e .object s with
  | .error f => .error f
  | .ok (b, s) =>
    if b = octet '"' then
      match skipQuoted e s with
      | .error f => .error f
      | .ok s => skipColon e s
    else .error (.malformed .keyNotText)

theorem length_skipKey_lt {e : Ending} {s rest : List UInt8} (h : skipKey e s = .ok rest) :
    rest.length < s.length := by
  unfold skipKey at h
  split at h
  · simp at h
  · next h₁ =>
    have := length_next_lt h₁
    split at h
    · split at h
      · simp at h
      · next h₂ =>
        have := length_skipQuoted_lt h₂
        have := length_skipColon_lt h
        omega
    · simp at h

/-- Where passing over a value has come to: the value is over, or another one follows inside
brackets, the innermost first. -/
inductive Progress
  | over (rest : List UInt8)
  | inside (brackets : List Bracket) (rest : List UInt8)

/-- The octets that are left. -/
def Progress.rest : Progress → List UInt8
  | .over rest => rest
  | .inside _ rest => rest

/-- Moves on to the next value inside brackets. -/
def enterItem (e : Ending) (b : Bracket) (outer : List Bracket) (s : List UInt8) :
    Except Fault Progress :=
  match b with
  | .list => .ok (.inside (b :: outer) s)
  | .object => (skipKey e s).map (.inside (b :: outer))

theorem length_enterItem_le {e : Ending} {b : Bracket} {outer : List Bracket} {s : List UInt8}
    {p : Progress} (h : enterItem e b outer s = .ok p) : p.rest.length ≤ s.length := by
  unfold enterItem at h
  split at h
  · cases h; exact Nat.le_refl _
  · cases hk : skipKey e s with
    | error f => simp [hk, Except.map] at h
    | ok rest =>
      have := length_skipKey_lt hk
      simp only [hk, Except.map, Except.ok.injEq] at h
      subst h
      simp only [Progress.rest]
      omega

/-- Moves on behind a value: past a comma to the next one, or past closing brackets. -/
def afterItem (e : Ending) : List Bracket → List UInt8 → Except Fault Progress
  | [], s => .ok (.over s)
  | b :: outer, s =>
    match next e b.place s with
    | .error f => .error f
    | .ok (c, s) =>
      if c = octet ',' then enterItem e b outer s
      else if c = b.closing then afterItem e outer s
      else .error (.malformed b.flaw)

theorem length_afterItem {e : Ending} {brackets : List Bracket} {s : List UInt8} {p : Progress}
    (h : afterItem e brackets s = .ok p) :
    p.rest.length ≤ s.length ∧ (brackets ≠ [] → p.rest.length < s.length) := by
  induction brackets generalizing s with
  | nil => simp only [afterItem] at h; cases h; simp [Progress.rest]
  | cons b outer ih =>
    simp only [afterItem] at h
    split at h
    · simp at h
    · next h₁ =>
      have := length_next_lt h₁
      split at h
      · have := length_enterItem_le h
        omega
      · split at h
        · have := (ih h).1
          omega
        · simp at h

/-- Moves on behind an opening bracket: past its closing bracket, or to the first value. -/
def afterOpening (e : Ending) (b : Bracket) (outer : List Bracket) (s : List UInt8) :
    Except Fault Progress :=
  match next e b.place s with
  | .error f => .error f
  | .ok (c, rest) => if c = b.closing then afterItem e outer rest else enterItem e b outer s

theorem length_afterOpening_le {e : Ending} {b : Bracket} {outer : List Bracket} {s : List UInt8}
    {p : Progress} (h : afterOpening e b outer s = .ok p) : p.rest.length ≤ s.length := by
  unfold afterOpening at h
  split at h
  · simp at h
  · next h₁ =>
    have := length_next_lt h₁
    split at h
    · have := (length_afterItem h).1
      omega
    · exact length_enterItem_le h

/-- Passes over a token or an opening bracket, and moves on behind it. -/
def skipToken (e : Ending) (brackets : List Bracket) (s : List UInt8) : Except Fault Progress :=
  match next e .value s with
  | .error f => .error f
  | .ok (b, s) =>
    if b = octet '[' then afterOpening e .list brackets s
    else if b = octet '\x7b' then afterOpening e .object brackets s
    else
      match skipScalar e b s with
      | .error f => .error f
      | .ok s => afterItem e brackets s

theorem length_skipToken {e : Ending} {brackets : List Bracket} {s : List UInt8} {p : Progress}
    (h : skipToken e brackets s = .ok p) :
    p.rest.length ≤ s.length ∧ (brackets ≠ [] ∨ p ≠ .over p.rest → p.rest.length < s.length) := by
  unfold skipToken at h
  split at h
  · simp at h
  · next h₁ =>
    have := length_next_lt h₁
    split at h
    · have := length_afterOpening_le h
      omega
    · split at h
      · have := length_afterOpening_le h
        omega
      · split at h
        · simp at h
        · next h₂ =>
          have := length_skipScalar_le h₂
          have ha := length_afterItem h
          refine ⟨by omega, fun hb => ?_⟩
          rcases hb with hb | hb
          · have := ha.2 hb
            omega
          · cases brackets with
            | nil =>
              simp only [afterItem, Except.ok.injEq] at h
              subst h
              simp [Progress.rest] at hb
            | cons b outer => have := ha.2 (by simp); omega

/-- Passes over values until brackets and the value at hand are over. -/
def skipWithin (e : Ending) (brackets : List Bracket) (s : List UInt8) :
    Except Fault (List UInt8) :=
  match _h : skipToken e brackets s with
  | .error f => .error f
  | .ok (.over rest) => .ok rest
  | .ok (.inside brackets rest) => skipWithin e brackets rest
termination_by s.length
decreasing_by exact (length_skipToken ‹_›).2 (.inr (by simp))

/-- Passes over a value. -/
def skipValue (e : Ending) (s : List UInt8) : Except Fault (List UInt8) := skipWithin e [] s

theorem length_skipWithin_le {e : Ending} {brackets : List Bracket} {s rest : List UInt8}
    (h : skipWithin e brackets s = .ok rest) : rest.length ≤ s.length := by
  fun_induction skipWithin e brackets s with
  | case1 => simp at h
  | case2 brackets s rest' h' =>
    have := (length_skipToken h').1
    simp_all [Progress.rest]
  | case3 brackets s brackets' rest' h' ih =>
    have := (length_skipToken h').1
    have := ih h
    simp_all only [Progress.rest]
    omega

theorem length_skipValue_le {e : Ending} {s rest : List UInt8} (h : skipValue e s = .ok rest) :
    rest.length ≤ s.length :=
  length_skipWithin_le h

end BucketDigest.Json
