import BucketDigest.Json.Members
import BucketDigest.Json.Writer
import BucketDigest.Settings

/-!
# Settings as documents

Settings are an object with the members `collation` and `algorithm`, or a list of their values in
this order; what is left out has its default. A value is a name, or an object whose one key is the
name and whose one value is `null`.

* `Settings.ofDocument` reads settings, and `Settings.document` writes them.
-/
namespace BucketDigest

open Json

/-! ## Reading -/

/-- The collation of a name; here octet order has no second name. -/
def CollationKind.ofVariant (name : String) : Except Fault CollationKind :=
  if name = "ascii" then .ok .ascii
  else if name = "unicode" then .ok .unicode
  else .error (.unfit (.unknownVariant name "ascii" "unicode"))

/-- The algorithm of a name. -/
def Algorithm.ofVariant (name : String) : Except Fault Algorithm :=
  if name = "md5" then .ok .md5
  else if name = "blake3" then .ok .blake3
  else .error (.unfit (.unknownVariant name "md5" "blake3"))

@[simp] theorem CollationKind.ofVariant_name (kind : CollationKind) :
    ofVariant kind.name = .ok kind := by
  cases kind <;> rfl

@[simp] theorem Algorithm.ofVariant_name (a : Algorithm) : ofVariant a.name = .ok a := by
  cases a <;> rfl

namespace Settings

/-- Reads the name that is the first key of an object, after the opening brace. -/
def readName (e : Ending) (s : List UInt8) : Except Fault (String × List UInt8) :=
  match nextKey e true s with
  | .error f => .error f
  | .ok (none, _) => .error (.malformed .expectedValue)
  | .ok (some name, rest) => .ok (name, rest)

/-- Reads `null`. -/
def readNull (e : Ending) (s : List UInt8) : Except Fault (List UInt8) := do
  let (b, s) ← next e .value s
  if b = octet 'n' then readWord e ['u', 'l', 'l'] s else throw (wrongType e "unit" b s)

/-- Reads the closing brace after a single member. -/
def readClosing (e : Ending) (s : List UInt8) : Except Fault (List UInt8) := do
  let (b, s) ← next e .object s
  if b = octet '\x7d' then return s else throw (.malformed .expectedValue)

/-- Reads a value by its name. -/
def readNamed {α : Type} (e : Ending) (ofName : String → Except Fault α) (s : List UInt8) :
    Except Fault (α × List UInt8) := do
  let (b, s) ← next e .value s
  if b = octet '"' then
    let (name, s) ← readQuoted e s
    return (← ofName name, s)
  else if b = octet '\x7b' then
    let (name, s) ← readName e s
    let a ← ofName name
    let s ← skipColon e s
    let s ← readNull e s
    return (a, ← readClosing e s)
  else throw (.malformed .expectedValue)

theorem length_readName_lt {e : Ending} {s rest : List UInt8} {name : String}
    (h : readName e s = .ok (name, rest)) : rest.length < s.length := by
  unfold readName at h
  split at h
  · simp at h
  · simp at h
  · next h₁ =>
    have := length_nextKey_lt h₁
    simp_all

theorem length_readNull_lt {e : Ending} {s rest : List UInt8} (h : readNull e s = .ok rest) :
    rest.length < s.length := by
  obtain ⟨⟨b, s₁⟩, h₁, h⟩ := bind_eq_ok.1 h
  have := length_next_lt h₁
  dsimp only at h
  split at h
  · have := length_readWord_le h
    omega
  · exact absurd h throw_ne_ok

theorem length_readClosing_lt {e : Ending} {s rest : List UInt8} (h : readClosing e s = .ok rest) :
    rest.length < s.length := by
  obtain ⟨⟨b, s₁⟩, h₁, h⟩ := bind_eq_ok.1 h
  have := length_next_lt h₁
  dsimp only at h
  split at h
  · simp only [pure_eq_ok] at h
    exact h ▸ this
  · exact absurd h throw_ne_ok

theorem length_readNamed_lt {α : Type} {e : Ending} {ofName : String → Except Fault α}
    {s rest : List UInt8} {a : α} (h : readNamed e ofName s = .ok (a, rest)) :
    rest.length < s.length := by
  obtain ⟨⟨b, s₁⟩, h₁, h⟩ := bind_eq_ok.1 h
  have := length_next_lt h₁
  dsimp only at h
  split at h
  · obtain ⟨⟨name, s₂⟩, h₂, h⟩ := bind_eq_ok.1 h
    have := length_readQuoted_lt h₂
    obtain ⟨_, _, h⟩ := bind_eq_ok.1 h
    simp only [pure_eq_ok, Prod.mk.injEq] at h
    obtain ⟨-, rfl⟩ := h
    omega
  · split at h
    · obtain ⟨⟨name, s₂⟩, h₂, h⟩ := bind_eq_ok.1 h
      have : s₂.length < s₁.length := length_readName_lt h₂
      obtain ⟨_, _, h⟩ := bind_eq_ok.1 h
      obtain ⟨s₃, h₃, h⟩ := bind_eq_ok.1 h
      have : s₃.length < s₂.length := length_skipColon_lt h₃
      obtain ⟨s₄, h₄, h⟩ := bind_eq_ok.1 h
      have := length_readNull_lt h₄
      obtain ⟨s₅, h₅, h⟩ := bind_eq_ok.1 h
      have := length_readClosing_lt h₅
      simp only [pure_eq_ok, Prod.mk.injEq] at h
      obtain ⟨-, rfl⟩ := h
      omega
    · exact absurd h throw_ne_ok

/-- The members of settings that have been read. -/
structure Members where
  collation : Option CollationKind
  algorithm : Option Algorithm

namespace Members

/-- No member has been read. -/
def none : Members := ⟨.none, .none⟩

/-- The settings that members make up. -/
def settings (m : Members) : Settings :=
  ⟨m.collation.getD Settings.default.collation, m.algorithm.getD Settings.default.algorithm⟩

/-- Reads one more member after its key. -/
def read (e : Ending) (m : Members) (key : String) (s : List UInt8) :
    Except Fault (Members × List UInt8) := do
  if key = "collation" then
    let (kind, s) ← readOnce e key m.collation (readNamed e CollationKind.ofVariant) s
    return ({ m with collation := some kind }, s)
  else if key = "algorithm" then
    let (a, s) ← readOnce e key m.algorithm (readNamed e Algorithm.ofVariant) s
    return ({ m with algorithm := some a }, s)
  else
    let s ← skipColon e s
    return (m, ← skipValue e s)

theorem length_read_lt {e : Ending} {m m' : Members} {key : String} {s rest : List UInt8}
    (h : m.read e key s = .ok (m', rest)) : rest.length < s.length := by
  unfold read at h
  split at h
  · obtain ⟨⟨_, _⟩, h₁, h⟩ := bind_eq_ok.1 h
    have := length_readOnce_lt (fun h => Nat.le_of_lt (length_readNamed_lt h)) h₁
    simp only [pure_eq_ok, Prod.mk.injEq] at h
    obtain ⟨-, rfl⟩ := h
    exact this
  · split at h
    · obtain ⟨⟨_, _⟩, h₁, h⟩ := bind_eq_ok.1 h
      have := length_readOnce_lt (fun h => Nat.le_of_lt (length_readNamed_lt h)) h₁
      simp only [pure_eq_ok, Prod.mk.injEq] at h
      obtain ⟨-, rfl⟩ := h
      exact this
    · obtain ⟨_, h₁, h⟩ := bind_eq_ok.1 h
      obtain ⟨_, h₂, h⟩ := bind_eq_ok.1 h
      have := length_skipColon_lt h₁
      have := length_skipValue_le h₂
      simp only [pure_eq_ok, Prod.mk.injEq] at h
      obtain ⟨-, rfl⟩ := h
      omega

end Members

/-- Reads settings after their opening brace, with some members read before. -/
def readMembers (e : Ending) (first : Bool) (m : Members) (s : List UInt8) :
    Except Fault (Settings × List UInt8) :=
  match _h : nextKey e first s with
  | .error f => .error f
  | .ok (none, rest) => .ok (m.settings, rest)
  | .ok (some key, rest) =>
    match _h' : m.read e key rest with
    | .error f => .error f
    | .ok (m, rest) => readMembers e false m rest
termination_by s.length
decreasing_by
  have := length_nextKey_lt _h
  have := Members.length_read_lt _h'
  omega

/-- Reads settings after their opening bracket. -/
def readElements (e : Ending) (s : List UInt8) : Except Fault (Settings × List UInt8) := do
  match ← nextElement e true s with
  | (false, s) => return (Settings.default, s)
  | (true, s) =>
    let (kind, s) ← readNamed e CollationKind.ofVariant s
    match ← nextElement e false s with
    | (false, s) => return ({ Settings.default with collation := kind }, s)
    | (true, s) =>
      let (a, s) ← readNamed e Algorithm.ofVariant s
      return (⟨kind, a⟩, ← endList e s)

/-- Reads settings. -/
def read (e : Ending) (s : List UInt8) : Except Fault (Settings × List UInt8) := do
  let (b, s) ← next e .value s
  if b = octet '\x7b' then readMembers e true .none s
  else if b = octet '[' then readElements e s
  else throw (wrongType e "struct DigestConfig" b s)

/-- The settings that a whole document holds. -/
def ofDocument (document : String) : Except Fault Settings := do
  let (settings, rest) ← read .closed (Text.bytes document)
  finish .closed rest
  return settings

/-! ## Writing -/

/-- Settings as a document. -/
def document (s : Settings) : String :=
  String.ofList
    (Style.compact.bracket 0 '\x7b' '\x7d'
      [Style.compact.member "collation" (textLiteral s.collation.name),
        Style.compact.member "algorithm" (textLiteral s.algorithm.name)])

end Settings

end BucketDigest
