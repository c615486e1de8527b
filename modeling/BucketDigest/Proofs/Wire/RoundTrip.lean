import BucketDigest.Proofs.Json.Members
import BucketDigest.Proofs.SortedMap
import BucketDigest.Proofs.Time.Rfc3339
import BucketDigest.Wire.Reading
import BucketDigest.Wire.Writing

/-!
# Collections that are read back

What is written of entries is read as these entries again, in either style, whether or not a bare
entry would be accepted too. Only timestamps may come back changed: cut off at whole milliseconds.

The lemmas follow the nesting of the document: `readPairs_body` and `readAttributes_text` for
attributes, `Takes` for the members of an entry, of which some may not be there, `readEntry_text`
for entries and `readItems_body` for lists.

Main statement: `written_entries_read_back`.
-/
namespace BucketDigest

/-- The entry with its timestamp cut off at whole milliseconds. -/
def Entry.truncated (entry : Entry) : Entry :=
  { entry with lastUpdated := entry.lastUpdated.map Time.Timestamp.truncated }

/-- The timestamp of an entry lies in a year with four digits, if there is one. -/
def Entry.Dated (entry : Entry) : Prop :=
  ∀ t, entry.lastUpdated = some t → Time.FourDigits t.date.year

namespace Wire

open Json
open Text (encode)

variable {e : Ending}

/-! ## Attributes -/

theorem readPairs_of_none {first : Bool} {attributes : Attributes} {s rest : List UInt8}
    (h : nextKey e first s = .ok (none, rest)) :
    readPairs e first attributes s = .ok (attributes, rest) := by
  rw [readPairs_eq, h]

theorem readPairs_of_some {first : Bool} {attributes : Attributes} {s t rest : List UInt8}
    {key value : String} (h : nextKey e first s = .ok (some key, t))
    (h' : readMemberText e t = .ok (value, rest)) :
    readPairs e first attributes s = readPairs e false (attributes.insert key value) rest := by
  simp only [readPairs_eq e first attributes s, h, h']

section
variable {style : Style} (hstyle : style.Blank)
include hstyle

theorem readMemberText_literal (text : String) (s : List UInt8) :
    readMemberText e
      (octet ':' :: (encode style.afterColon ++ (encode (textLiteral text) ++ s))) =
      .ok (text, s) := by
  unfold readMemberText
  rw [skipColon_cons]
  exact readText_literal hstyle.afterColon text s

/-- The pairs of an object are put into the map one after the other. -/
theorem readPairs_body (depth : Nat) (first : Bool) (attributes : Attributes)
    (pairs : List (String × String)) (s : List UInt8) :
    readPairs e first attributes (encode (style.body depth '\x7d' first
      (pairs.map fun x => style.member x.1 (textLiteral x.2))) ++ s) =
      .ok (pairs.foldl (fun m x => m.insert x.1 x.2) attributes, s) := by
  induction pairs generalizing first attributes with
  | nil => exact readPairs_of_none (nextKey_body_nil hstyle depth first s)
  | cons x rest ih =>
    rw [List.map_cons, readPairs_of_some (nextKey_body hstyle depth first ..)
      (readMemberText_literal hstyle ..), ih, List.foldl_cons]

/-- Attributes are read as they were written. -/
theorem readAttributes_text {sp : List UInt8} (hsp : AllSpace sp) {attributes : Attributes}
    (h : attributes.isEmpty = false) (depth : Nat) (s : List UInt8) :
    readAttributes e (sp ++ (encode (attributesText style depth attributes) ++ s)) =
      .ok (attributes, s) := by
  have hparts : (attributes.entries.map fun x => style.member x.1 (textLiteral x.2)) ≠ [] := by
    intro hnil
    rw [SortedMap.isEmpty, List.map_eq_nil_iff.1 hnil] at h
    cases h
  have hfold : attributes.entries.foldl (fun m x => m.insert x.1 x.2) .empty = attributes :=
    attributes.ofList_entries
  unfold readAttributes attributesText
  rw [encode_bracket style depth _ (by decide) hparts, List.cons_append, next_append hsp rfl]
  simp only [if_true, readPairs_body hstyle, hfold]

/-! ## Members of an entry -/

end

theorem readMembers_of_none {first : Bool} {m : Members} {s rest : List UInt8} {entry : Entry}
    (h : nextKey e first s = .ok (none, rest)) (hentry : m.entry = .ok entry) :
    readMembers e first m s = .ok (entry, rest) := by
  simp only [readMembers_eq e first m s, h, hentry]
  rfl

theorem readMembers_of_some {first : Bool} {m m' : Members} {s t rest : List UInt8} {key : String}
    (h : nextKey e first s = .ok (some key, t)) (h' : m.read e key t = .ok (m', rest)) :
    readMembers e first m s = readMembers e false m' rest := by
  simp only [readMembers_eq e first m s, h, h']

/-- Reading some parts of an object takes one state of the members to another, whatever parts come
after them. -/
def Takes (e : Ending) (style : Style) (depth : Nat) (m : Members) (parts : List (List Char))
    (m' : Members) : Prop :=
  ∀ first rest s, ∃ first',
    readMembers e first m (encode (style.body depth '\x7d' first (parts ++ rest)) ++ s) =
      readMembers e first' m' (encode (style.body depth '\x7d' first' rest) ++ s)

namespace Takes

variable {style : Style} {depth : Nat} {m m' m'' : Members}

theorem nil : Takes e style depth m [] m := fun first _ _ => ⟨first, rfl⟩

theorem append {parts parts' : List (List Char)} (h : Takes e style depth m parts m')
    (h' : Takes e style depth m' parts' m'') : Takes e style depth m (parts ++ parts') m'' := by
  intro first rest s
  obtain ⟨first', hparts⟩ := h first (parts' ++ rest) s
  obtain ⟨first'', hparts'⟩ := h' first' rest s
  exact ⟨first'', by rw [List.append_assoc, hparts, hparts']⟩

theorem member (hstyle : style.Blank) {key : String} {value : List Char}
    (hread : ∀ s, m.read e key (octet ':' :: (encode style.afterColon ++ (encode value ++ s))) =
      .ok (m', s)) : Takes e style depth m [style.member key value] m' := by
  intro first rest s
  exact ⟨false, readMembers_of_some (nextKey_body hstyle depth first ..) (hread _)⟩

end Takes

/-! ### One member -/

/-- What is written of an entry makes up the entry. -/
theorem entry_written (entry : Entry) :
    Members.entry ⟨entry.id.map some, some entry.version,
      entry.lastUpdated.map fun t => some t.truncated,
      if entry.attributes.isEmpty then none else some entry.attributes⟩ = .ok entry.truncated := by
  have hattributes :
      (if entry.attributes.isEmpty then none else some entry.attributes).getD .empty =
        entry.attributes := by
    cases h : entry.attributes.isEmpty with
    | true => exact SortedMap.ext (List.isEmpty_iff.1 h).symm
    | false => rfl
  have hid : (entry.id.map some).join = entry.id := by
    cases entry.id <;> rfl
  have hlastUpdated : (entry.lastUpdated.map fun t => some t.truncated).join =
      entry.lastUpdated.map Time.Timestamp.truncated := by
    cases entry.lastUpdated <;> rfl
  exact congrArg Except.ok (Entry.ext hid rfl hlastUpdated hattributes)

theorem encode_entryText (style : Style) (depth : Nat) (entry : Entry) :
    encode (entryText style depth entry) =
      octet '\x7b' :: encode (style.body depth '\x7d' true (entryMembers style depth entry)) :=
  encode_bracket style depth _ (by decide) (by simp [entryMembers])

section
variable {style : Style} (hstyle : style.Blank) (depth : Nat) (id : Option (Option String))
  (version : Option String) (lastUpdated : Option (Option Time.Timestamp))
include hstyle

theorem takes_id (id : Option String) :
    Takes e style depth .none (id.map fun id => style.member "id" (textLiteral id)).toList
      ⟨id.map some, none, none, none⟩ := by
  cases id with
  | none => exact .nil
  | some id =>
    refine .member hstyle fun s => ?_
    unfold Members.read
    rw [if_pos rfl, Members.none, readOnce_none, readOptionalText_literal hstyle.afterColon]
    rfl

theorem takes_version (text : String) :
    Takes e style depth ⟨id, none, none, none⟩ [style.member "version" (textLiteral text)]
      ⟨id, some text, none, none⟩ := by
  refine .member hstyle fun s => ?_
  unfold Members.read
  rw [if_neg (by decide), if_pos rfl, readOnce_none, readText_literal hstyle.afterColon]
  rfl

theorem takes_lastUpdated {t : Option Time.Timestamp}
    (h : ∀ t', t = some t' → Time.FourDigits t'.date.year) :
    Takes e style depth ⟨id, version, none, none⟩
      (t.map fun t => style.member "lastUpdated" (textLiteral (String.ofList t.text))).toList
      ⟨id, version, t.map fun t => some t.truncated, none⟩ := by
  cases t with
  | none => exact .nil
  | some t =>
    refine .member hstyle fun s => ?_
    have hread : readTimestamp e (encode style.afterColon ++
        (encode (textLiteral (String.ofList t.text)) ++ s)) = .ok (some t.truncated, s) := by
      unfold readTimestamp
      rw [readOptionalText_literal hstyle.afterColon]
      simp only [Time.Rfc3339.read_text (h t rfl)]
    unfold Members.read
    rw [if_neg (by decide), if_neg (by decide), if_pos rfl, readOnce_none, hread]
    rfl

theorem takes_attributes (attributes : Attributes) :
    Takes e style depth ⟨id, version, lastUpdated, none⟩
      (if attributes.isEmpty then []
        else [style.member "attributes" (attributesText style (depth + 1) attributes)])
      ⟨id, version, lastUpdated, if attributes.isEmpty then none else some attributes⟩ := by
  cases h : attributes.isEmpty with
  | true => exact .nil
  | false =>
    refine .member hstyle fun s => ?_
    unfold Members.read
    rw [if_neg (by decide), if_neg (by decide), if_neg (by decide), if_pos rfl, readOnce_none,
      readAttributes_text hstyle hstyle.afterColon h]
    rfl

/-! ## Entries -/

/-- An entry is read as it was written, but for its timestamp. -/
theorem readEntry_text {sp : List UInt8} (hsp : AllSpace sp) {entry : Entry} (h : entry.Dated)
    (s : List UInt8) :
    readEntry e (sp ++ (encode (entryText style depth entry) ++ s)) =
      .ok (entry.truncated, s) := by
  have htakes : Takes e style depth .none (entryMembers style depth entry)
      ⟨entry.id.map some, some entry.version, entry.lastUpdated.map fun t => some t.truncated,
        if entry.attributes.isEmpty then none else some entry.attributes⟩ :=
    (((takes_id hstyle depth entry.id).append (takes_version hstyle depth _ entry.version)).append
      (takes_lastUpdated hstyle depth _ _ h)).append (takes_attributes hstyle depth _ _ _ _)
  -- All that is left after the four members is the closing brace.
  obtain ⟨first', hread⟩ := htakes true [] s
  rw [List.append_nil] at hread
  unfold readEntry
  rw [encode_entryText, List.cons_append, next_append hsp rfl]
  simp only [if_true]
  rw [hread, readMembers_of_none (nextKey_body_nil hstyle depth first' s) (entry_written entry)]

end

/-! ## Collections -/

section
variable {style : Style} (hstyle : style.Blank) {v : Validator} {entries : List Entry}
  (hdated : ∀ entry ∈ entries, entry.Dated)
  (haccepted : ∀ entry ∈ entries, v entry.truncated = .ok ())
include hstyle hdated haccepted

/-- The entries of a list are read one after the other. -/
theorem readItems_body (first : Bool) :
    readItems .closed v first
      (encode (style.body 0 ']' first (entries.map (entryText style 1)))) =
      ⟨entries.map Entry.truncated, .ok (entries.map Entry.truncated)⟩ := by
  induction entries generalizing first with
  | nil =>
    have hnext := nextElement_body_nil (e := .closed) hstyle 0 first []
    rw [List.append_nil] at hnext
    rw [List.map_nil, readItems_of_end hnext]
    rfl
  | cons entry rest ih =>
    obtain ⟨hentry, hrest⟩ := List.forall_mem_cons.1 hdated
    obtain ⟨hv, hvs⟩ := List.forall_mem_cons.1 haccepted
    have hnext := nextElement_body (e := .closed) hstyle 0 first (encode_entryText style 1 entry)
      rfl (by decide) (rest.map (entryText style 1)) []
    rw [List.append_nil, List.append_nil] at hnext
    rw [List.map_cons, readItems_of_entry hnext
      (readEntry_text hstyle 1 (hstyle.lineBreak 1) hentry _) hv, ih hrest hvs]
    rfl

/-- A collection is read as it was written, but for the timestamps. -/
theorem readCollection_entriesText (bare : List UInt8 → Reading) :
    readCollection .closed v bare (encode (entriesText style entries)) =
      ⟨entries.map Entry.truncated, .ok (entries.map Entry.truncated)⟩ := by
  unfold readCollection entriesText
  cases entries with
  | nil =>
    have hnext : nextElement .closed true [octet ']'] = .ok (false, []) := rfl
    show readItems .closed v true [octet ']'] = _
    rw [readItems_of_end hnext]
    rfl
  | cons entry rest =>
    have hne : (entry :: rest).map (entryText style 1) ≠ [] := by simp
    rw [encode_bracket style 0 _ (by decide) hne, next_cons rfl]
    exact readItems_body hstyle hdated haccepted true

end

/-- Entries without timestamps are read as they were written. -/
theorem readCollection_queryResult {v : Validator} {entries : List Entry}
    (hundated : ∀ entry ∈ entries, entry.lastUpdated = none)
    (haccepted : ∀ entry ∈ entries, v entry = .ok ()) (bare : List UInt8 → Reading) :
    readCollection .closed v bare (Text.bytes (queryResult entries)) = ⟨entries, .ok entries⟩ := by
  have hdated : ∀ entry ∈ entries, entry.Dated := by
    intro entry hentry t ht
    rw [hundated entry hentry] at ht
    cases ht
  have htruncated : ∀ entry ∈ entries, entry.truncated = entry := by
    intro entry hentry
    unfold Entry.truncated
    rw [hundated entry hentry]
    exact Entry.ext rfl rfl (hundated entry hentry).symm rfl
  have hmap : entries.map Entry.truncated = entries :=
    (List.map_congr_left htruncated).trans (List.map_id _)
  have haccepted' : ∀ entry ∈ entries, v entry.truncated = .ok () := by
    intro entry hentry
    rw [htruncated entry hentry]
    exact haccepted entry hentry
  have hread := readCollection_entriesText Style.blank_compact hdated haccepted' bare
  rw [hmap] at hread
  unfold queryResult
  rw [Text.bytes_ofList, hread]

/-- **Round trip.** Entries whose timestamps lie in years with four digits are written without
fail. What is written, and the indented text likewise, is read by either reader: the same entries in
the same order, with timestamps cut off at whole milliseconds. -/
theorem written_entries_read_back {entries : List Entry}
    (hdated : ∀ entry ∈ entries, entry.Dated) :
    (deliver .unlimited entries).outcome = .ok () ∧
    ∀ octets, octets = (deliver .unlimited entries).written ∨
        octets = Text.bytes (indentedResult entries) →
      (readQueryResult .acceptAll ⟨octets, .closed⟩).outcome = .ok (entries.map .truncated) ∧
        (readEntries .acceptAll ⟨octets, .closed⟩).outcome = .ok (entries.map .truncated) := by
  refine ⟨rfl, ?_⟩
  intro octets hoctets
  obtain ⟨style, hstyle, rfl⟩ :
      ∃ style : Style, style.Blank ∧ octets = encode (entriesText style entries) := by
    rcases hoctets with rfl | rfl
    · exact ⟨.compact, Style.blank_compact, Text.bytes_ofList _⟩
    · exact ⟨.indented, Style.blank_indented, Text.bytes_ofList _⟩
  have hread : ∀ bare, readCollection .closed .acceptAll bare (encode (entriesText style entries)) =
      ⟨entries.map .truncated, .ok (entries.map .truncated)⟩ :=
    readCollection_entriesText hstyle hdated fun _ _ => rfl
  constructor
  · unfold readQueryResult
    rw [hread]
  · unfold readEntries
    rw [hread]

/-- The last leap second so far and the first moment of year 0, with characters that have to be
escaped and characters that take one octet to four, members that are not there and members that are
empty. -/
theorem written_entries_read_back_of_leap_second :
    let text := "\"\\/\x00\x1f\x7f\n\r\té€😀"
    let entries : List Entry :=
      [⟨some text, "", some ⟨1483228799, 1999999999, by decide, by decide⟩,
          .ofList [(text, ""), ("", text)]⟩,
        ⟨none, text, some ⟨-62167219200, 999999, by decide, by decide⟩, .empty⟩]
    (∀ entry ∈ entries, entry.Dated) ∧
      ∀ octets, octets = (deliver .unlimited entries).written ∨
          octets = Text.bytes (indentedResult entries) →
        (readEntries .acceptAll ⟨octets, .closed⟩).outcome =
          .ok [⟨some text, "", some ⟨1483228799, 1999000000, by decide, by decide⟩,
              .ofList [(text, ""), ("", text)]⟩,
            ⟨none, text, some ⟨-62167219200, 0, by decide, by decide⟩, .empty⟩] := by
  intro text entries
  have hdated : ∀ entry ∈ entries, entry.Dated := by
    intro entry hentry t ht
    simp only [entries, List.mem_cons, List.not_mem_nil, or_false] at hentry
    rcases hentry with rfl | rfl
    · cases ht
      exact ⟨by decide, by decide⟩
    · cases ht
      exact ⟨by decide, by decide⟩
  exact ⟨hdated, fun octets hoctets => ((written_entries_read_back hdated).2 octets hoctets).2⟩

end Wire

end BucketDigest
