import BucketDigest.Json.Found
import BucketDigest.Json.Skip

/-!
# Lists, objects and the values in them

The readers that typed values are put together from.

* `nextElement` and `nextKey` step through a list or an object.
* `readText` and `readOptionalText` read a value of a given type.
* `readOnce` reads the value of a member that may not be repeated.
-/
namespace BucketDigest.Json

/-! ## Stepping through brackets -/

/-- Moves to the next element of a list: whether there is one, and the octets from it on, or from
behind the closing bracket. -/
def nextElement (e : Ending) (first : Bool) (s : List UInt8) : Except Fault (Bool × List UInt8) :=
  match next e .list s with
  | .error f => .error f
  | .ok (b, rest) =>
    if b = octet ']' then .ok (false, rest)
    else if first then .ok (true, s)
    else if b = octet ',' then
      match next e .value rest with
      | .error f => .error f
      | .ok (c, _) => if c = octet ']' then .error (.malformed .trailingComma) else .ok (true, rest)
    else .error (.malformed .expectedCommaOrBracket)

theorem length_nextElement_le {e : Ending} {first more : Bool} {s rest : List UInt8}
    (h : nextElement e first s = .ok (more, rest)) : rest.length ≤ s.length := by
  unfold nextElement at h
  split at h
  · simp at h
  · next h₁ =>
    have := length_next_lt h₁
    split at h
    · simp only [Except.ok.injEq, Prod.mk.injEq] at h
      rw [← h.2]
      omega
    · split at h
      · simp_all
      · split at h
        · split at h
          · simp at h
          · split at h
            · simp at h
            · simp only [Except.ok.injEq, Prod.mk.injEq] at h
              rw [← h.2]
              omega
        · simp at h

/-- Closes a list after its last element. What follows a comma is only looked at to tell the two
faults apart, so a failing source makes no difference there. -/
def endList (e : Ending) (s : List UInt8) : Except Fault (List UInt8) :=
  match next e .list s with
  | .error f => .error f
  | .ok (b, rest) =>
    if b = octet ']' then .ok rest
    else if b = octet ',' ∧ (skipSpace rest).head? = some (octet ']') then
      .error (.malformed .trailingComma)
    else .error (.malformed .trailingCharacters)

theorem length_endList_lt {e : Ending} {s rest : List UInt8} (h : endList e s = .ok rest) :
    rest.length < s.length := by
  unfold endList at h
  split at h
  · simp at h
  · next h₁ =>
    have := length_next_lt h₁
    split at h
    · simp_all
    · split at h <;> simp at h

/-- Reads a key whose opening quote has been read. -/
def readKey (e : Ending) (s : List UInt8) : Except Fault (Option String × List UInt8) :=
  match readQuoted e s with
  | .error f => .error f
  | .ok (key, rest) => .ok (some key, rest)

theorem length_readKey_lt {e : Ending} {s rest : List UInt8} {key : Option String}
    (h : readKey e s = .ok (key, rest)) : rest.length < s.length := by
  unfold readKey at h
  split at h
  · simp at h
  · next h₁ =>
    have := length_readQuoted_lt h₁
    simp_all

/-- Moves to the next member of an object: its key, if there is one, and the octets behind the key
or behind the closing brace. -/
def nextKey (e : Ending) (first : Bool) (s : List UInt8) :
    Except Fault (Option String × List UInt8) :=
  match next e .object s with
  | .error f => .error f
  | .ok (b, rest) =>
    if b = octet '\x7d' then .ok (none, rest)
    else if first then
      if b = octet '"' then readKey e rest else .error (.malformed .keyNotText)
    else if b = octet ',' then
      match next e .value rest with
      | .error f => .error f
      | .ok (c, rest) =>
        if c = octet '"' then readKey e rest
        else if c = octet '\x7d' then .error (.malformed .trailingComma)
        else .error (.malformed .keyNotText)
    else .error (.malformed .expectedCommaOrBrace)

theorem length_nextKey_lt {e : Ending} {first : Bool} {s rest : List UInt8} {key : Option String}
    (h : nextKey e first s = .ok (key, rest)) : rest.length < s.length := by
  unfold nextKey at h
  split at h
  · simp at h
  · next h₁ =>
    have := length_next_lt h₁
    split at h
    · simp_all
    · split at h
      · split at h
        · have := length_readKey_lt h
          omega
        · simp at h
      · split at h
        · split at h
          · simp at h
          · next h₂ =>
            have := length_next_lt h₂
            split at h
            · have := length_readKey_lt h
              omega
            · split at h <;> simp at h
        · simp at h

/-! ## Values of a given type -/

/-- Reads a text that starts with the octet `b`. -/
def readTextAt (e : Ending) (b : UInt8) (s : List UInt8) : Except Fault (String × List UInt8) :=
  if b = octet '"' then readQuoted e s else .error (wrongType e "a string" b s)

theorem length_readTextAt_lt {e : Ending} {b : UInt8} {s rest : List UInt8} {text : String}
    (h : readTextAt e b s = .ok (text, rest)) : rest.length < s.length := by
  unfold readTextAt at h
  split at h
  · exact length_readQuoted_lt h
  · simp at h

/-- Reads a text. -/
def readText (e : Ending) (s : List UInt8) : Except Fault (String × List UInt8) :=
  match next e .value s with
  | .error f => .error f
  | .ok (b, s) => readTextAt e b s

theorem length_readText_lt {e : Ending} {s rest : List UInt8} {text : String}
    (h : readText e s = .ok (text, rest)) : rest.length < s.length := by
  unfold readText at h
  split at h
  · simp at h
  · next h₁ =>
    have := length_next_lt h₁
    have := length_readTextAt_lt h
    omega

/-- Reads a text or `null`. -/
def readOptionalText (e : Ending) (s : List UInt8) :
    Except Fault (Option String × List UInt8) :=
  match next e .value s with
  | .error f => .error f
  | .ok (b, s) =>
    if b = octet 'n' then
      match readWord e ['u', 'l', 'l'] s with
      | .error f => .error f
      | .ok rest => .ok (none, rest)
    else
      match readTextAt e b s with
      | .error f => .error f
      | .ok (text, rest) => .ok (some text, rest)

theorem length_readOptionalText_lt {e : Ending} {s rest : List UInt8} {text : Option String}
    (h : readOptionalText e s = .ok (text, rest)) : rest.length < s.length := by
  unfold readOptionalText at h
  split at h
  · simp at h
  · next h₁ =>
    have := length_next_lt h₁
    split at h
    · split at h
      · simp at h
      · next h₂ =>
        have := length_readWord_le h₂
        simp only [Except.ok.injEq, Prod.mk.injEq] at h
        rw [← h.2]
        omega
    · split at h
      · simp at h
      · next h₂ =>
        have := length_readTextAt_lt h₂
        simp only [Except.ok.injEq, Prod.mk.injEq] at h
        rw [← h.2]
        omega

/-- Reads the value of a member after its key, unless it has been given before. -/
def readOnce {α : Type} (e : Ending) (name : String) (present : Option α)
    (read : List UInt8 → Except Fault (α × List UInt8)) (s : List UInt8) :
    Except Fault (α × List UInt8) :=
  if present.isSome then .error (.unfit (.duplicateField name))
  else
    match skipColon e s with
    | .error f => .error f
    | .ok s => read s

theorem length_readOnce_lt {α : Type} {e : Ending} {name : String} {present : Option α}
    {read : List UInt8 → Except Fault (α × List UInt8)} {s rest : List UInt8} {a : α}
    (hread : ∀ {s a rest}, read s = .ok (a, rest) → rest.length ≤ s.length)
    (h : readOnce e name present read s = .ok (a, rest)) : rest.length < s.length := by
  unfold readOnce at h
  split at h
  · simp at h
  · split at h
    · simp at h
    · next h₁ =>
      have := length_skipColon_lt h₁
      have := hread h
      omega

end BucketDigest.Json
