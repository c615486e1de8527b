import BucketDigest.Entry
import BucketDigest.Json.Members

/-!
# Reading entries

An entry is an object with the members `id`, `version`, `lastUpdated` and `attributes`, of which
only `version` is required, or a list of their values in this order.

* `readEntry` reads either form. Members of other names are passed over, and a member that is given
  twice is refused.
-/
namespace BucketDigest.Wire

open Json

/-- What an entry is called in messages. -/
def entryType : String := "struct ScanResultEntry"

/-! ## Values of members -/

/-- Reads a timestamp or `null`. -/
def readTimestamp (e : Ending) (s : List UInt8) :
    Except Fault (Option Time.Timestamp × List UInt8) :=
  match readOptionalText e s with
  | .error f => .error f
  | .ok (none, rest) => .ok (none, rest)
  | .ok (some text, rest) =>
    match Time.Rfc3339.read text with
    | .error f => .error (.unfit (.timestamp f))
    | .ok t => .ok (some t, rest)

theorem length_readTimestamp_lt {e : Ending} {s rest : List UInt8} {t : Option Time.Timestamp}
    (h : readTimestamp e s = .ok (t, rest)) : rest.length < s.length := by
  unfold readTimestamp at h
  split at h
  · simp at h
  · next h₁ =>
    have := length_readOptionalText_lt h₁
    simp_all
  · next h₁ =>
    have := length_readOptionalText_lt h₁
    split at h <;> simp_all

/-- Reads the text of a member after its key. -/
def readMemberText (e : Ending) (s : List UInt8) : Except Fault (String × List UInt8) :=
  match skipColon e s with
  | .error f => .error f
  | .ok s => readText e s

theorem length_readMemberText_lt {e : Ending} {s rest : List UInt8} {text : String}
    (h : readMemberText e s = .ok (text, rest)) : rest.length < s.length := by
  unfold readMemberText at h
  split at h
  · simp at h
  · next h₁ =>
    have := length_skipColon_lt h₁
    have := length_readText_lt h
    omega

/-- Reads the members of an object of texts onto some attributes. Of two members with the same name
the later counts. -/
def readPairs (e : Ending) (first : Bool) (attributes : Attributes) (s : List UInt8) :
    Except Fault (Attributes × List UInt8) :=
  match _h : nextKey e first s with
  | .error f => .error f
  | .ok (none, rest) => .ok (attributes, rest)
  | .ok (some key, rest) =>
    match _h' : readMemberText e rest with
    | .error f => .error f
    | .ok (value, rest) => readPairs e false (attributes.insert key value) rest
termination_by s.length
decreasing_by
  have := length_nextKey_lt _h
  have := length_readMemberText_lt _h'
  omega

theorem length_readPairs_lt {e : Ending} {first : Bool} {attributes a : Attributes}
    {s rest : List UInt8} (h : readPairs e first attributes s = .ok (a, rest)) :
    rest.length < s.length := by
  fun_induction readPairs e first attributes s with
  | case1 => simp at h
  | case2 _ _ _ _ h₁ =>
    have := length_nextKey_lt h₁
    simp_all
  | case3 => simp at h
  | case4 _ _ _ _ _ h₁ _ _ h₂ ih =>
    have := length_nextKey_lt h₁
    have := length_readMemberText_lt h₂
    have := ih h
    omega

/-- One pair of attributes. -/
theorem readPairs_eq (e : Ending) (first : Bool) (attributes : Attributes) (s : List UInt8) :
    readPairs e first attributes s =
      match nextKey e first s with
      | .error f => .error f
      | .ok (none, rest) => .ok (attributes, rest)
      | .ok (some key, rest) =>
        match readMemberText e rest with
        | .error f => .error f
        | .ok (value, rest) => readPairs e false (attributes.insert key value) rest := by
  rw [readPairs]
  split
  · simp_all
  · simp_all
  · split <;> simp_all

/-- Reads attributes. -/
def readAttributes (e : Ending) (s : List UInt8) : Except Fault (Attributes × List UInt8) :=
  match next e .value s with
  | .error f => .error f
  | .ok (b, s) =>
    if b = octet '\x7b' then readPairs e true .empty s else .error (wrongType e "a map" b s)

theorem length_readAttributes_lt {e : Ending} {s rest : List UInt8} {a : Attributes}
    (h : readAttributes e s = .ok (a, rest)) : rest.length < s.length := by
  unfold readAttributes at h
  split at h
  · simp at h
  · next h₁ =>
    have := length_next_lt h₁
    split at h
    · have := length_readPairs_lt h
      omega
    · simp at h

/-! ## Objects -/

/-- The members of an entry that have been read; a member may be there and be `null`. -/
structure Members where
  id : Option (Option String)
  version : Option String
  lastUpdated : Option (Option Time.Timestamp)
  attributes : Option Attributes

namespace Members

/-- No member has been read. -/
def none : Members := ⟨.none, .none, .none, .none⟩

/-- The entry that members make up. -/
def entry (m : Members) : Except Fault Entry :=
  match m.version with
  | .none => .error (.unfit (.missingField "version"))
  | some version => .ok ⟨m.id.join, version, m.lastUpdated.join, m.attributes.getD .empty⟩

/-- Reads one more member after its key. -/
def read (e : Ending) (m : Members) (key : String) (s : List UInt8) :
    Except Fault (Members × List UInt8) :=
  if key = "id" then
    (readOnce e key m.id (readOptionalText e) s).map fun (id, rest) =>
      ({ m with id := some id }, rest)
  else if key = "version" then
    (readOnce e key m.version (readText e) s).map fun (version, rest) =>
      ({ m with version := some version }, rest)
  else if key = "lastUpdated" then
    (readOnce e key m.lastUpdated (readTimestamp e) s).map fun (lastUpdated, rest) =>
      ({ m with lastUpdated := some lastUpdated }, rest)
  else if key = "attributes" then
    (readOnce e key m.attributes (readAttributes e) s).map fun (attributes, rest) =>
      ({ m with attributes := some attributes }, rest)
  else
    match skipColon e s with
    | .error f => .error f
    | .ok rest => (skipValue e rest).map fun rest => (m, rest)

end Members

theorem length_read_lt {e : Ending} {m m' : Members} {key : String} {s rest : List UInt8}
    (h : m.read e key s = .ok (m', rest)) : rest.length < s.length := by
  unfold Members.read at h
  split at h
  · obtain ⟨⟨_, _⟩, h₁, h₂⟩ := map_eq_ok.1 h
    have := length_readOnce_lt (fun h => Nat.le_of_lt (length_readOptionalText_lt h)) h₁
    simp_all
  · split at h
    · obtain ⟨⟨_, _⟩, h₁, h₂⟩ := map_eq_ok.1 h
      have := length_readOnce_lt (fun h => Nat.le_of_lt (length_readText_lt h)) h₁
      simp_all
    · split at h
      · obtain ⟨⟨_, _⟩, h₁, h₂⟩ := map_eq_ok.1 h
        have := length_readOnce_lt (fun h => Nat.le_of_lt (length_readTimestamp_lt h)) h₁
        simp_all
      · split at h
        · obtain ⟨⟨_, _⟩, h₁, h₂⟩ := map_eq_ok.1 h
          have := length_readOnce_lt (fun h => Nat.le_of_lt (length_readAttributes_lt h)) h₁
          simp_all
        · split at h
          · simp at h
          · next h₀ =>
            obtain ⟨_, h₁, h₂⟩ := map_eq_ok.1 h
            have := length_skipColon_lt h₀
            have := length_skipValue_le h₁
            simp only [Prod.mk.injEq] at h₂
            rw [← h₂.2]
            omega

/-- Reads an entry after its opening brace, with some members read before. -/
def readMembers (e : Ending) (first : Bool) (m : Members) (s : List UInt8) :
    Except Fault (Entry × List UInt8) :=
  match _h : nextKey e first s with
  | .error f => .error f
  | .ok (none, rest) => m.entry.map fun entry => (entry, rest)
  | .ok (some key, rest) =>
    match _h' : m.read e key rest with
    | .error f => .error f
    | .ok (m, rest) => readMembers e false m rest
termination_by s.length
decreasing_by
  have := length_nextKey_lt _h
  have := length_read_lt _h'
  omega

theorem length_readMembers_lt {e : Ending} {first : Bool} {m : Members} {s rest : List UInt8}
    {entry : Entry} (h : readMembers e first m s = .ok (entry, rest)) :
    rest.length < s.length := by
  fun_induction readMembers e first m s with
  | case1 => simp at h
  | case2 _ _ _ _ h₁ =>
    have := length_nextKey_lt h₁
    obtain ⟨_, _, h₂⟩ := map_eq_ok.1 h
    simp_all
  | case3 => simp at h
  | case4 _ _ _ _ _ h₁ _ _ h₂ ih =>
    have := length_nextKey_lt h₁
    have := length_read_lt h₂
    have := ih h
    omega

/-- One member of an entry. -/
theorem readMembers_eq (e : Ending) (first : Bool) (m : Members) (s : List UInt8) :
    readMembers e first m s =
      match nextKey e first s with
      | .error f => .error f
      | .ok (none, rest) => m.entry.map fun entry => (entry, rest)
      | .ok (some key, rest) =>
        match m.read e key rest with
        | .error f => .error f
        | .ok (m, rest) => readMembers e false m rest := by
  rw [readMembers]
  split
  · simp_all
  · simp_all
  · split <;> simp_all

/-! ## Lists -/

/-- The fault of a list that ends before the version. -/
def tooShort : Fault := .unfit (.wrongLength 1 (entryType ++ " with 4 elements"))

/-- Reads an entry after its opening bracket. -/
def readElements (e : Ending) (s : List UInt8) : Except Fault (Entry × List UInt8) := do
  match ← nextElement e true s with
  | (false, _) => throw tooShort
  | (true, s) =>
    let (id, s) ← readOptionalText e s
    match ← nextElement e false s with
    | (false, _) => throw tooShort
    | (true, s) =>
      let (version, s) ← readText e s
      match ← nextElement e false s with
      | (false, s) => return (⟨id, version, none, .empty⟩, s)
      | (true, s) =>
        let (lastUpdated, s) ← readTimestamp e s
        match ← nextElement e false s with
        | (false, s) => return (⟨id, version, lastUpdated, .empty⟩, s)
        | (true, s) =>
          let (attributes, s) ← readAttributes e s
          let s ← endList e s
          return (⟨id, version, lastUpdated, attributes⟩, s)

theorem length_readElements_lt {e : Ending} {s rest : List UInt8} {entry : Entry}
    (h : readElements e s = .ok (entry, rest)) : rest.length < s.length := by
  obtain ⟨⟨more, s₁⟩, h₁, h⟩ := bind_eq_ok.1 h
  have := length_nextElement_le h₁
  cases more with
  | false => exact absurd h throw_ne_ok
  | true =>
    obtain ⟨⟨id, s₂⟩, h₂, h⟩ := bind_eq_ok.1 h
    have := length_readOptionalText_lt h₂
    obtain ⟨⟨more, s₃⟩, h₃, h⟩ := bind_eq_ok.1 h
    have := length_nextElement_le h₃
    cases more with
    | false => exact absurd h throw_ne_ok
    | true =>
      obtain ⟨⟨version, s₄⟩, h₄, h⟩ := bind_eq_ok.1 h
      have := length_readText_lt h₄
      obtain ⟨⟨more, s₅⟩, h₅, h⟩ := bind_eq_ok.1 h
      have := length_nextElement_le h₅
      cases more with
      | false =>
        simp only [pure_eq_ok, Prod.mk.injEq] at h
        obtain ⟨-, rfl⟩ := h
        omega
      | true =>
        obtain ⟨⟨lastUpdated, s₆⟩, h₆, h⟩ := bind_eq_ok.1 h
        have := length_readTimestamp_lt h₆
        obtain ⟨⟨more, s₇⟩, h₇, h⟩ := bind_eq_ok.1 h
        have := length_nextElement_le h₇
        cases more with
        | false =>
          simp only [pure_eq_ok, Prod.mk.injEq] at h
          obtain ⟨-, rfl⟩ := h
          omega
        | true =>
          obtain ⟨⟨attributes, s₈⟩, h₈, h⟩ := bind_eq_ok.1 h
          have := length_readAttributes_lt h₈
          obtain ⟨s₉, h₉, h⟩ := bind_eq_ok.1 h
          have := length_endList_lt h₉
          simp only [pure_eq_ok, Prod.mk.injEq] at h
          obtain ⟨-, rfl⟩ := h
          omega

/-! ## Either form -/

/-- Reads an entry. -/
def readEntry (e : Ending) (s : List UInt8) : Except Fault (Entry × List UInt8) :=
  match next e .value s with
  | .error f => .error f
  | .ok (b, s) =>
    if b = octet '\x7b' then readMembers e true .none s
    else if b = octet '[' then readElements e s
    else .error (wrongType e entryType b s)

theorem length_readEntry_lt {e : Ending} {s rest : List UInt8} {entry : Entry}
    (h : readEntry e s = .ok (entry, rest)) : rest.length < s.length := by
  unfold readEntry at h
  split at h
  · simp at h
  · next h₁ =>
    have := length_next_lt h₁
    split at h
    · have := length_readMembers_lt h
      omega
    · split at h
      · have := length_readElements_lt h
        omega
      · simp at h

end BucketDigest.Wire
