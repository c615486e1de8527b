import BucketDigest.Event
import BucketDigest.Wire.EntryReader
import BucketDigest.Wire.Validator

/-!
# Reading collections

A collection of entries is a list of them, or where that is allowed one bare entry. Each entry is
vetted as soon as it has been read, and the first refusal ends the reading, whatever comes after it
in the document.

* `readQueryResult` takes only lists.
* `readEntries` takes a bare entry too.
-/
namespace BucketDigest.Wire

open Json

/-- What came of reading a collection, and the entries that were vetted, in the order of the
document. -/
structure Reading where
  vetted : List Entry
  outcome : Except WireError (List Entry)

namespace Reading

/-- A failure before any entry. -/
def failed (error : WireError) : Reading := ⟨[], .error error⟩

/-- A reading that went on after one entry more had been vetted. -/
def after (entry : Entry) (r : Reading) : Reading :=
  ⟨entry :: r.vetted, r.outcome.map (entry :: ·)⟩

/-- A reading that ended with the refusal of an entry. -/
def refused (entry : Entry) (error : WireError) : Reading := ⟨[entry], .error error⟩

/-- A reading that has come to the end of the collection. -/
def ended (e : Ending) (s : List UInt8) : Reading :=
  match finish e s with
  | .error f => failed (.json f)
  | .ok () => ⟨[], .ok []⟩

end Reading

/-- Reads the entries of a list up to its end. -/
def readItems (e : Ending) (v : Validator) (first : Bool) (s : List UInt8) : Reading :=
  match _h : nextElement e first s with
  | .error f => .failed (.json f)
  | .ok (false, rest) => .ended e rest
  | .ok (true, rest) =>
    match _h' : readEntry e rest with
    | .error f => .failed (.json f)
    | .ok (entry, rest) =>
      match v entry with
      | .error error => .refused entry error
      | .ok () => (readItems e v false rest).after entry
termination_by s.length
decreasing_by
  have := length_nextElement_le _h
  have := length_readEntry_lt _h'
  omega

/-- One entry of a list. -/
theorem readItems_eq (e : Ending) (v : Validator) (first : Bool) (s : List UInt8) :
    readItems e v first s =
      match nextElement e first s with
      | .error f => .failed (.json f)
      | .ok (false, rest) => .ended e rest
      | .ok (true, rest) =>
        match readEntry e rest with
        | .error f => .failed (.json f)
        | .ok (entry, rest) =>
          match v entry with
          | .error error => .refused entry error
          | .ok () => (readItems e v false rest).after entry := by
  rw [readItems]
  split
  · simp_all
  · simp_all
  · split
    · simp_all
    · split <;> simp_all

section
variable {e : Ending} {v : Validator} {first : Bool} {s t rest : List UInt8}

theorem readItems_of_end (h : nextElement e first s = .ok (false, rest)) :
    readItems e v first s = .ended e rest := by
  rw [readItems_eq, h]

theorem readItems_of_more (h : nextElement e first s = .ok (true, rest)) :
    readItems e v first s =
      match readEntry e rest with
      | .error f => .failed (.json f)
      | .ok (entry, rest) =>
        match v entry with
        | .error error => .refused entry error
        | .ok () => (readItems e v false rest).after entry := by
  rw [readItems_eq, h]

theorem readItems_of_entry {entry : Entry} (h : nextElement e first s = .ok (true, t))
    (h' : readEntry e t = .ok (entry, rest)) (hv : v entry = .ok ()) :
    readItems e v first s = (readItems e v false rest).after entry := by
  simp only [readItems_of_more h, h', hv]

theorem readItems_of_refused {entry : Entry} {error : WireError}
    (h : nextElement e first s = .ok (true, t)) (h' : readEntry e t = .ok (entry, rest))
    (hv : v entry = .error error) : readItems e v first s = .refused entry error := by
  simp only [readItems_of_more h, h', hv]

end

/-- Reads a bare entry after its opening brace. -/
def readBareEntry (e : Ending) (v : Validator) (s : List UInt8) : Reading :=
  match readMembers e true .none s with
  | .error f => .failed (.json f)
  | .ok (entry, rest) =>
    match v entry with
    | .error error => .refused entry error
    | .ok () => (Reading.ended e rest).after entry

/-- The error of a document that is no collection and starts with the octet `b`. -/
def notCollection (e : Ending) (b : UInt8) (s : List UInt8) : WireError :=
  match readFound e b s with
  | .error f => .json f
  | .ok (found, _) => .expectedArray (.ofFound found)

/-- Reads a collection; an object after its opening brace is left to `bare`. -/
def readCollection (e : Ending) (v : Validator) (bare : List UInt8 → Reading) (s : List UInt8) :
    Reading :=
  match next e .value s with
  | .error f => .failed (.json f)
  | .ok (b, rest) =>
    if b = octet '[' then readItems e v true rest
    else if b = octet '\x7b' then bare rest
    else .failed (notCollection e b rest)

/-- Reads a list of entries. -/
def readQueryResult (v : Validator) (source : Source) : Reading :=
  readCollection source.ending v (fun _ => .failed (.expectedArray .object)) source.octets

/-- Reads a list of entries or one bare entry. -/
def readEntries (v : Validator) (source : Source) : Reading :=
  readCollection source.ending v (readBareEntry source.ending v) source.octets

/-! ## Events -/

namespace Reading

/-- What is reported of a reading that succeeds. -/
def eventsOf (event : Nat → Event) (r : Reading) : List Event :=
  match r.outcome with
  | .ok entries => [event entries.length]
  | .error _ => []

/-- What `readQueryResult` reports. -/
def queryResultEvents (r : Reading) : List Event := r.eventsOf .queryResultRead

/-- What `readEntries` reports. -/
def entriesEvents (r : Reading) : List Event := r.eventsOf .entriesRead

end Reading

end BucketDigest.Wire
