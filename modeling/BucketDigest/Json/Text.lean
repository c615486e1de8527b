import BucketDigest.Json.Source
import BucketDigest.Text.Utf8

/-!
# Texts in documents

Reads what stands between two quotes. Escapes are replaced as they come, and when the closing quote
is reached the whole has to be UTF-8.
-/
namespace BucketDigest.Json

/-- The value of a hexadecimal digit of either case. -/
def hexDigit? (b : UInt8) : Option Nat :=
  if octet '0' ≤ b ∧ b ≤ octet '9' then some (b.toNat - 48)
  else if octet 'a' ≤ b ∧ b ≤ octet 'f' then some (b.toNat - 87)
  else if octet 'A' ≤ b ∧ b ≤ octet 'F' then some (b.toNat - 55)
  else none

/-- The number that hexadecimal digits stand for. -/
def hexNumber? (s : List UInt8) : Option Nat :=
  (s.mapM hexDigit?).map fun ds => ds.foldl (fun n d => 16 * n + d) 0

/-- Reads four hexadecimal digits; all four octets are asked for before one is looked at. -/
def readHex (e : Ending) : List UInt8 → Except Fault (Nat × List UInt8)
  | a :: b :: c :: d :: s =>
    match hexNumber? [a, b, c, d] with
    | some n => .ok (n, s)
    | none => .error (.malformed .invalidEscape)
  | _ => .error (e.fault .text)

theorem length_readHex_le {e : Ending} {s rest : List UInt8} {n : Nat}
    (h : readHex e s = .ok (n, rest)) : rest.length ≤ s.length := by
  unfold readHex at h
  split at h
  · split at h
    · simp only [Except.ok.injEq, Prod.mk.injEq] at h
      rw [← h.2]
      simp only [List.length_cons]
      omega
    · simp at h
  · simp at h

/-- Reads one given octet inside an escape. -/
def readMark (e : Ending) (mark : UInt8) : List UInt8 → Except Fault (List UInt8)
  | [] => .error (e.fault .text)
  | b :: s => if b = mark then .ok s else .error (.malformed .brokenEscape)

theorem length_readMark_le {e : Ending} {mark : UInt8} {s rest : List UInt8}
    (h : readMark e mark s = .ok rest) : rest.length ≤ s.length := by
  unfold readMark at h
  split at h
  · simp at h
  · split at h <;> simp_all

/-- Reads the second half of a surrogate pair whose first half is `high`. -/
def readLowSurrogate (e : Ending) (high : Nat) (s : List UInt8) :
    Except Fault (Char × List UInt8) :=
  match readMark e (octet '\\') s with
  | .error f => .error f
  | .ok s =>
    match readMark e (octet 'u') s with
    | .error f => .error f
    | .ok s =>
      match readHex e s with
      | .error f => .error f
      | .ok (low, s) =>
        if 0xDC00 ≤ low ∧ low ≤ 0xDFFF then
          .ok (Char.ofNat (0x10000 + (high - 0xD800) * 0x400 + (low - 0xDC00)), s)
        else .error (.malformed .loneSurrogate)

theorem length_readLowSurrogate_le {e : Ending} {high : Nat} {s rest : List UInt8} {c : Char}
    (h : readLowSurrogate e high s = .ok (c, rest)) : rest.length ≤ s.length := by
  unfold readLowSurrogate at h
  split at h
  · simp at h
  · next h₁ =>
    have := length_readMark_le h₁
    split at h
    · simp at h
    · next h₂ =>
      have := length_readMark_le h₂
      split at h
      · simp at h
      · next h₃ =>
        have := length_readHex_le h₃
        split at h
        · simp only [Except.ok.injEq, Prod.mk.injEq] at h
          rw [← h.2]
          omega
        · simp at h

/-- Reads the digits of a code point escape, and of a second one if they are half of a pair. -/
def readCodePoint (e : Ending) (s : List UInt8) : Except Fault (Char × List UInt8) :=
  match readHex e s with
  | .error f => .error f
  | .ok (n, s) =>
    if 0xDC00 ≤ n ∧ n ≤ 0xDFFF then .error (.malformed .loneSurrogate)
    else if 0xD800 ≤ n ∧ n ≤ 0xDBFF then readLowSurrogate e n s
    else .ok (Char.ofNat n, s)

theorem length_readCodePoint_le {e : Ending} {s rest : List UInt8} {c : Char}
    (h : readCodePoint e s = .ok (c, rest)) : rest.length ≤ s.length := by
  unfold readCodePoint at h
  split at h
  · simp at h
  · next h₁ =>
    have := length_readHex_le h₁
    split at h
    · simp at h
    · split at h
      · have := length_readLowSurrogate_le h
        omega
      · simp_all

/-- The octet that an escape of one letter stands for. -/
def shortEscape? (b : UInt8) : Option UInt8 :=
  if b = octet '"' then some 0x22
  else if b = octet '\\' then some 0x5C
  else if b = octet '/' then some 0x2F
  else if b = octet 'b' then some 0x08
  else if b = octet 'f' then some 0x0C
  else if b = octet 'n' then some 0x0A
  else if b = octet 'r' then some 0x0D
  else if b = octet 't' then some 0x09
  else none

/-- Reads what follows a backslash, and gives the octets that it stands for. -/
def readEscape (e : Ending) : List UInt8 → Except Fault (List UInt8 × List UInt8)
  | [] => .error (e.fault .text)
  | b :: s =>
    if b = octet 'u' then
      match readCodePoint e s with
      | .error f => .error f
      | .ok (c, rest) => .ok (String.utf8EncodeChar c, rest)
    else
      match shortEscape? b with
      | some o => .ok ([o], s)
      | none => .error (.malformed .invalidEscape)

theorem length_readEscape_lt {e : Ending} {s rest octets : List UInt8}
    (h : readEscape e s = .ok (octets, rest)) : rest.length < s.length := by
  unfold readEscape at h
  split at h
  · simp at h
  · split at h
    · split at h
      · simp at h
      · next h₁ =>
        have := length_readCodePoint_le h₁
        simp only [Except.ok.injEq, Prod.mk.injEq] at h
        rw [← h.2, List.length_cons]
        omega
    · split at h <;> simp_all

/-- Reads up to the closing quote. The octets read so far are in `read`, the last one first. -/
def readOctets (e : Ending) (read : List UInt8) :
    List UInt8 → Except Fault (List UInt8 × List UInt8)
  | [] => .error (e.fault .text)
  | b :: s =>
    if b = octet '"' then .ok (read.reverse, s)
    else if b = octet '\\' then
      match _h : readEscape e s with
      | .error f => .error f
      | .ok (octets, rest) => readOctets e (octets.reverse ++ read) rest
    else if b < 0x20 then .error (.malformed .controlCharacter)
    else readOctets e (b :: read) s
termination_by s => s.length
decreasing_by
  · have := length_readEscape_lt ‹_›
    simp only [List.length_cons]
    omega
  · simp

theorem length_readOctets_lt {e : Ending} {read s rest octets : List UInt8}
    (h : readOctets e read s = .ok (octets, rest)) : rest.length < s.length := by
  fun_induction readOctets e read s with
  | case1 => simp at h
  | case2 => simp_all
  | case3 => simp at h
  | case4 read s _ _ h' _ ih =>
    have := ih h
    have := length_readEscape_lt h'
    simp only [List.length_cons]
    omega
  | case5 => simp at h
  | case6 read b s _ _ _ ih =>
    have := ih h
    simp only [List.length_cons]
    omega

/-- Reads a text after its opening quote. -/
def readQuoted (e : Ending) (s : List UInt8) : Except Fault (String × List UInt8) :=
  match readOctets e [] s with
  | .error f => .error f
  | .ok (octets, rest) =>
    match Text.decode? octets with
    | some text => .ok (text, rest)
    | none => .error (.malformed .invalidCodePoint)

theorem length_readQuoted_lt {e : Ending} {s rest : List UInt8} {text : String}
    (h : readQuoted e s = .ok (text, rest)) : rest.length < s.length := by
  unfold readQuoted at h
  split at h
  · simp at h
  · next h₁ =>
    have := length_readOctets_lt h₁
    split at h <;> simp_all

end BucketDigest.Json
