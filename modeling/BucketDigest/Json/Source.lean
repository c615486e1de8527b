import BucketDigest.Json.Fault

/-!
# Reading octets

A document is read octet by octet from a source that ends in one of two ways: it is closed, or it
fails. Nothing is read beyond what decides the outcome.

Readers take the ending of the source and the octets that are left, and give what they read and the
octets left after it.
-/
namespace BucketDigest.Json

/-- The octet of an ASCII character. -/
abbrev octet (c : Char) : UInt8 := UInt8.ofNat c.toNat

/-- How a source ends. -/
inductive Ending
  | closed
  | failing (reason : String)
  deriving DecidableEq

/-- Octets and what comes after them. -/
structure Source where
  octets : List UInt8
  ending : Ending

/-- A source of octets that fails when more than `n` are asked for. A shorter document just ends. -/
def Source.failingAfter (n : Nat) (reason : String) (octets : List UInt8) : Source :=
  if octets.length < n then ⟨octets, .closed⟩ else ⟨octets.take n, .failing reason⟩

/-- The fault of asking for an octet at the end, while reading at a place. -/
def Ending.fault (e : Ending) (place : Place) : Fault :=
  match e with
  | .closed => .cutOff place
  | .failing reason => .device reason

/-! ## Outcomes -/

theorem bind_eq_ok {α β : Type} {x : Except Fault α} {f : α → Except Fault β} {b : β} :
    x >>= f = .ok b ↔ ∃ a, x = .ok a ∧ f a = .ok b := by
  cases x <;> simp [bind, Except.bind]

theorem map_eq_ok {α β : Type} {x : Except Fault α} {f : α → β} {b : β} :
    x.map f = .ok b ↔ ∃ a, x = .ok a ∧ f a = b := by
  cases x <;> simp [Except.map]

theorem pure_eq_ok {α : Type} {a b : α} : (pure a : Except Fault α) = .ok b ↔ a = b := by
  simp [pure, Except.pure]

theorem throw_ne_ok {α : Type} {f : Fault} {a : α} : (throw f : Except Fault α) ≠ .ok a := by
  simp [throw, throwThe, MonadExceptOf.throw]

/-! ## Octets -/

/-- Whether an octet is white space between tokens: space, tab, newline or carriage return. -/
def isSpace (b : UInt8) : Bool :=
  b = 0x20 || b = 0x09 || b = 0x0A || b = 0x0D

/-- The octets from the first that is no white space. -/
def skipSpace (s : List UInt8) : List UInt8 := s.dropWhile isSpace

theorem length_skipSpace_le (s : List UInt8) : (skipSpace s).length ≤ s.length :=
  (List.dropWhile_sublist isSpace).length_le

/-- The first octet that is no white space, and what follows it; at a given place in the
document. -/
def next (e : Ending) (place : Place) (s : List UInt8) : Except Fault (UInt8 × List UInt8) :=
  match skipSpace s with
  | [] => .error (e.fault place)
  | b :: rest => .ok (b, rest)

theorem length_next_lt {e : Ending} {place : Place} {s rest : List UInt8} {b : UInt8}
    (h : next e place s = .ok (b, rest)) : rest.length < s.length := by
  have := length_skipSpace_le s
  unfold next at h
  split at h
  · simp at h
  · next h₁ =>
    simp only [Except.ok.injEq, Prod.mk.injEq] at h
    rw [h₁, List.length_cons, h.2] at this
    omega

/-- Asks for an octet without taking it; fails only if the source does. -/
def peek (e : Ending) (s : List UInt8) : Except Fault Unit :=
  match s, e with
  | [], .failing reason => .error (.device reason)
  | _, _ => .ok ()

/-- Reads the rest of a word whose first letter told which it is. -/
def readWord (e : Ending) : List Char → List UInt8 → Except Fault (List UInt8)
  | [], s => .ok s
  | _ :: _, [] => .error (e.fault .value)
  | c :: cs, b :: s =>
    if b = octet c then readWord e cs s else .error (.malformed .expectedIdent)

theorem length_readWord_le {e : Ending} {cs : List Char} {s rest : List UInt8}
    (h : readWord e cs s = .ok rest) : rest.length ≤ s.length := by
  fun_induction readWord e cs s with
  | case1 => simp_all
  | case2 => simp at h
  | case3 _ _ _ ih => exact Nat.le_succ_of_le (ih h)
  | case4 => simp at h

/-- The document ends here, apart from white space. -/
def finish (e : Ending) (s : List UInt8) : Except Fault Unit :=
  match skipSpace s with
  | [] => peek e []
  | _ :: _ => .error (.malformed .trailingCharacters)

end BucketDigest.Json
