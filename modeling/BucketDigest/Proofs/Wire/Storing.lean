import BucketDigest.Proofs.Time.Years
import BucketDigest.Proofs.Traversal
import BucketDigest.Proofs.Wire.Extension
import BucketDigest.Proofs.Wire.RoundTrip
import BucketDigest.Proofs.Wire.Screening

/-!
# Entries that are read, written and read again

All that is read can be written, but a timestamp that its offset from UTC takes out of the years 0
to 9999 is written in a way that is not read again.

* `year_of_lastUpdated`: the years that timestamps have which have been read.
* `readCollection_of_undated`: what comes of the others.
* `deliver_truncated`: what is read again is written as it was.

Main statement: `stored_entries_are_readable_iff`.
-/
namespace BucketDigest.Wire

open Json
open Text (encode)

variable {e : Ending} {v : Validator}

/-! ## Timestamps that have been read -/

/-- A timestamp, if there is one, lies at most one year outside of four digits. -/
def NearFourDigits (t : Option Time.Timestamp) : Prop :=
  ∀ t', t = some t' → -1 ≤ t'.date.year ∧ t'.date.year ≤ 10000

theorem nearFourDigits_none : NearFourDigits none := nofun

theorem nearFourDigits_readTimestamp {s rest : List UInt8} {t : Option Time.Timestamp}
    (h : readTimestamp e s = .ok (t, rest)) : NearFourDigits t := by
  unfold readTimestamp at h
  split at h
  · cases h
  · cases h
    exact nearFourDigits_none
  · split at h
    · cases h
    · next hread =>
      cases h
      intro t' ht'
      cases ht'
      exact Time.Rfc3339.year_of_read hread

theorem exists_of_readOnce {α : Type} {name : String} {present : Option α}
    {read : List UInt8 → Except Fault (α × List UInt8)} {s rest : List UInt8} {a : α}
    (h : readOnce e name present read s = .ok (a, rest)) : ∃ t, read t = .ok (a, rest) := by
  unfold readOnce at h
  split at h
  · cases h
  split at h
  · cases h
  · exact ⟨_, h⟩

theorem nearFourDigits_read {m m' : Members} {key : String} {s rest : List UInt8}
    (hm : NearFourDigits m.lastUpdated.join) (h : m.read e key s = .ok (m', rest)) :
    NearFourDigits m'.lastUpdated.join := by
  unfold Members.read at h
  split at h
  · obtain ⟨r, -, hr⟩ := map_eq_ok.1 h
    cases hr
    exact hm
  split at h
  · obtain ⟨r, -, hr⟩ := map_eq_ok.1 h
    cases hr
    exact hm
  split at h
  · obtain ⟨r, hread, hr⟩ := map_eq_ok.1 h
    cases hr
    obtain ⟨t, ht⟩ := exists_of_readOnce hread
    exact nearFourDigits_readTimestamp ht
  split at h
  · obtain ⟨r, -, hr⟩ := map_eq_ok.1 h
    cases hr
    exact hm
  split at h
  · cases h
  · obtain ⟨r, -, hr⟩ := map_eq_ok.1 h
    cases hr
    exact hm

theorem nearFourDigits_readMembers {first : Bool} {m : Members} {s rest : List UInt8}
    {x : Entry} (hm : NearFourDigits m.lastUpdated.join)
    (h : readMembers e first m s = .ok (x, rest)) : NearFourDigits x.lastUpdated := by
  fun_induction readMembers e first m s with
  | case1 => cases h
  | case2 first m s rest' hkey =>
    obtain ⟨entry, hentry, hx⟩ := map_eq_ok.1 h
    cases hx
    unfold Members.entry at hentry
    split at hentry
    · cases hentry
    · cases hentry
      exact hm
  | case3 => cases h
  | case4 first m s key rest' hkey m' rest'' hread ih => exact ih (nearFourDigits_read hm hread) h

theorem nearFourDigits_readElements {s rest : List UInt8} {x : Entry}
    (h : readElements e s = .ok (x, rest)) : NearFourDigits x.lastUpdated := by
  obtain ⟨⟨more, s⟩, -, h⟩ := bind_eq_ok.1 h
  cases more with
  | false => exact absurd h throw_ne_ok
  | true =>
    obtain ⟨⟨id, s⟩, -, h⟩ := bind_eq_ok.1 h
    obtain ⟨⟨more, s⟩, -, h⟩ := bind_eq_ok.1 h
    cases more with
    | false => exact absurd h throw_ne_ok
    | true =>
      obtain ⟨⟨version, s⟩, -, h⟩ := bind_eq_ok.1 h
      obtain ⟨⟨more, s⟩, -, h⟩ := bind_eq_ok.1 h
      cases more with
      | false =>
        cases h
        exact nearFourDigits_none
      | true =>
        obtain ⟨⟨lastUpdated, s⟩, hread, h⟩ := bind_eq_ok.1 h
        have hnear := nearFourDigits_readTimestamp hread
        obtain ⟨⟨more, s⟩, -, h⟩ := bind_eq_ok.1 h
        cases more with
        | false =>
          cases h
          exact hnear
        | true =>
          obtain ⟨⟨attributes, s⟩, -, h⟩ := bind_eq_ok.1 h
          obtain ⟨s, -, h⟩ := bind_eq_ok.1 h
          cases h
          exact hnear

theorem nearFourDigits_readEntry {s rest : List UInt8} {x : Entry}
    (h : readEntry e s = .ok (x, rest)) : NearFourDigits x.lastUpdated := by
  unfold readEntry at h
  split at h
  · cases h
  split at h
  · exact nearFourDigits_readMembers (m := .none) nearFourDigits_none h
  split at h
  · exact nearFourDigits_readElements h
  · cases h

theorem nearFourDigits_readItems {first : Bool} {s : List UInt8} :
    ∀ x ∈ (readItems e v first s).vetted, NearFourDigits x.lastUpdated := by
  fun_induction readItems e v first s with
  | case1 => exact List.forall_mem_nil _
  | case2 first s rest =>
    rw [Reading.vetted_ended]
    exact List.forall_mem_nil _
  | case3 => exact List.forall_mem_nil _
  | case4 first s rest h x t hread =>
    exact List.forall_mem_singleton.2 (nearFourDigits_readEntry hread)
  | case5 first s rest h x t hread haccepted ih =>
    exact List.forall_mem_cons.2 ⟨nearFourDigits_readEntry hread, ih⟩

theorem year_of_lastUpdated {source : Source} {entries : List Entry}
    (h : (readQueryResult v source).outcome = .ok entries) :
    ∀ x ∈ entries, NearFourDigits x.lastUpdated := by
  have hvetted : ∀ x ∈ (readQueryResult v source).vetted, NearFourDigits x.lastUpdated := by
    unfold readQueryResult readCollection
    split
    · exact nofun
    split
    · exact nearFourDigits_readItems
    split
    · exact nofun
    · exact nofun
  have hcomplete : (readQueryResult v source).Complete :=
    complete_readCollection (fun _ => Reading.complete_failed _) source.octets
  rw [hcomplete entries h]
  exact hvetted

/-! ## Timestamps that are not read again -/

/-- The fault of a year that is written with a sign. -/
def undated : Fault := .unfit (.timestamp .invalid)

theorem readTimestamp_of_not_fourDigits {t : Time.Timestamp} (h : ¬Time.FourDigits t.date.year)
    {sp : List UInt8} (hsp : AllSpace sp) (s : List UInt8) :
    readTimestamp e (sp ++ (encode (textLiteral (String.ofList t.text)) ++ s)) =
      .error undated := by
  unfold readTimestamp
  rw [readOptionalText_literal hsp]
  simp only [Time.Rfc3339.read_text_of_not_fourDigits h]
  rfl

section
variable {style : Style} (hstyle : style.Blank)
include hstyle

/-- An entry is read up to its timestamp. -/
theorem readEntry_of_undated (depth : Nat) {sp : List UInt8} (hsp : AllSpace sp) {x : Entry}
    (h : ¬x.Dated) (s : List UInt8) :
    readEntry e (sp ++ (encode (entryText style depth x) ++ s)) = .error undated := by
  obtain ⟨t, ht, hyear⟩ : ∃ t, x.lastUpdated = some t ∧ ¬Time.FourDigits t.date.year := by
    simpa [Entry.Dated] using h
  let value := textLiteral (String.ofList t.text)
  let rest := if x.attributes.isEmpty then []
    else [style.member "attributes" (attributesText style (depth + 1) x.attributes)]
  have hmembers : entryMembers style depth x =
      ((x.id.map fun id => style.member "id" (textLiteral id)).toList ++
        [style.member "version" (textLiteral x.version)]) ++
          style.member "lastUpdated" value :: rest := by
    unfold entryMembers
    rw [ht]
    simp only [Option.map_some, Option.toList_some, List.append_assoc, List.cons_append,
      List.nil_append]
    rfl
  obtain ⟨first, hread⟩ := (takes_id (e := e) hstyle depth x.id).append
    (takes_version hstyle depth (x.id.map some) x.version) true
    (style.member "lastUpdated" value :: rest) s
  have hmember : ∀ s, Members.read e ⟨x.id.map some, some x.version, none, none⟩ "lastUpdated"
      (octet ':' :: (encode style.afterColon ++ (encode value ++ s))) = .error undated := by
    intro s
    unfold Members.read
    rw [if_neg (by decide), if_neg (by decide), if_pos rfl, readOnce_none,
      readTimestamp_of_not_fourDigits hyear hstyle.afterColon]
    rfl
  unfold readEntry
  rw [encode_entryText, List.cons_append, next_append hsp rfl]
  simp only [if_true]
  rw [hmembers, hread, readMembers_eq, nextKey_body hstyle]
  dsimp only
  rw [hmember]

/-- The entries of a list are read up to the first with such a timestamp. -/
theorem readItems_of_undated {before after : List Entry} {x : Entry}
    (hbefore : ∀ y ∈ before, y.Dated) (hx : ¬x.Dated) (first : Bool) :
    readItems .closed .acceptAll first
      (encode (style.body 0 ']' first ((before ++ x :: after).map (entryText style 1)))) =
      ⟨before.map Entry.truncated, .error (.json undated)⟩ := by
  induction before generalizing first with
  | nil =>
    have hnext := nextElement_body (e := .closed) hstyle 0 first (encode_entryText style 1 x)
      rfl (by decide) (after.map (entryText style 1)) []
    rw [List.append_nil, List.append_nil] at hnext
    rw [List.nil_append, List.map_cons, readItems_eq, hnext]
    dsimp only
    rw [readEntry_of_undated hstyle 1 (hstyle.lineBreak 1) hx]
    rfl
  | cons y before ih =>
    obtain ⟨hy, hrest⟩ := List.forall_mem_cons.1 hbefore
    have hnext := nextElement_body (e := .closed) hstyle 0 first (encode_entryText style 1 y)
      rfl (by decide) ((before ++ x :: after).map (entryText style 1)) []
    rw [List.append_nil, List.append_nil] at hnext
    rw [List.cons_append, List.map_cons, readItems_of_entry hnext
      (readEntry_text hstyle 1 (hstyle.lineBreak 1) hy _) rfl, ih hrest]
    rfl

theorem readCollection_of_undated {before after : List Entry} {x : Entry}
    (hbefore : ∀ y ∈ before, y.Dated) (hx : ¬x.Dated) (bare : List UInt8 → Reading) :
    readCollection .closed .acceptAll bare (encode (entriesText style (before ++ x :: after))) =
      ⟨before.map Entry.truncated, .error (.json undated)⟩ := by
  have hne : (before ++ x :: after).map (entryText style 1) ≠ [] := by simp
  unfold readCollection entriesText
  rw [encode_bracket style 0 _ (by decide) hne, next_cons rfl]
  exact readItems_of_undated hstyle hbefore hx true

end

/-! ## Writing again -/

theorem entryText_truncated (style : Style) (depth : Nat) (x : Entry) :
    entryText style depth x.truncated = entryText style depth x := by
  unfold entryText entryMembers Entry.truncated
  cases x.lastUpdated with
  | none => rfl
  | some t => simp only [Option.map_some, Time.Timestamp.text_truncated]

theorem deliver_truncated (sink : Sink) (entries : List Entry) :
    deliver sink (entries.map .truncated) = deliver sink entries := by
  have htext : queryResult (entries.map .truncated) = queryResult entries := by
    unfold queryResult entriesText
    rw [List.map_map]
    congr 2
    exact List.map_congr_left fun x _ => entryText_truncated .compact 1 x
  unfold deliver
  rw [htext]

/-! ## Reading, writing and reading again -/

/-- The first entry with a timestamp outside of four digits. -/
theorem exists_first_undated {entries : List Entry} (h : ¬∀ x ∈ entries, x.Dated) :
    ∃ before x after, entries = before ++ x :: after ∧ (∀ y ∈ before, y.Dated) ∧ ¬x.Dated := by
  induction entries with
  | nil => exact absurd nofun h
  | cons x rest ih =>
    rw [exists_split_cons_iff]
    by_cases hx : x.Dated
    · have hrest : ¬∀ y ∈ rest, y.Dated := fun hrest => h (List.forall_mem_cons.2 ⟨hx, hrest⟩)
      obtain ⟨before, y, after, hsplit, hbefore, hy⟩ := ih hrest
      exact .inr ⟨before, y, after, hsplit, List.forall_mem_cons.2 ⟨hx, hbefore⟩, hy⟩
    · exact .inl ⟨nofun, hx⟩

/-- What comes of entries that are written and read again. -/
def reread (entries : List Entry) : Reading :=
  readQueryResult .acceptAll ⟨(deliver .unlimited entries).written, .closed⟩

theorem reread_of_dated {entries : List Entry} (h : ∀ x ∈ entries, x.Dated) :
    (reread entries).outcome = .ok (entries.map .truncated) := by
  have hwritten : (deliver .unlimited entries).written = encode (entriesText .compact entries) :=
    Text.bytes_ofList _
  unfold reread readQueryResult
  rw [hwritten, readCollection_entriesText Style.blank_compact h fun _ _ => rfl]

theorem reread_of_undated {entries : List Entry} (h : ¬∀ x ∈ entries, x.Dated) :
    (reread entries).outcome = .error (.json undated) := by
  have hwritten : (deliver .unlimited entries).written = encode (entriesText .compact entries) :=
    Text.bytes_ofList _
  obtain ⟨before, x, after, rfl, hbefore, hx⟩ := exists_first_undated h
  unfold reread readQueryResult
  rw [hwritten, readCollection_of_undated Style.blank_compact hbefore hx]

/-- **Storing.** Entries that have been read can be written. They can be read again if and only if
no timestamp lies, in UTC, in the year before 0 or after 9999, which only an offset can bring about.
Then the same entries come of it, with timestamps cut off at whole milliseconds, and these are
written as the others were, octet by octet. -/
theorem stored_entries_are_readable_iff {source : Source} {entries : List Entry}
    (h : (readQueryResult .acceptAll source).outcome = .ok entries) :
    (deliver .unlimited entries).outcome = .ok () ∧
    ((∃ again, (reread entries).outcome = .ok again) ↔
      ∀ x ∈ entries, ∀ t, x.lastUpdated = some t → t.date.year ≠ -1 ∧ t.date.year ≠ 10000) ∧
    (∀ again, (reread entries).outcome = .ok again →
      again = entries.map .truncated ∧ deliver .unlimited again = deliver .unlimited entries) ∧
    ∀ error, (reread entries).outcome = .error error →
      error = .json (.unfit (.timestamp .invalid)) := by
  have hdated : (∀ x ∈ entries, x.Dated) ↔
      ∀ x ∈ entries, ∀ t, x.lastUpdated = some t → t.date.year ≠ -1 ∧ t.date.year ≠ 10000 := by
    refine forall₂_congr fun x hx => forall₂_congr fun t ht => ?_
    have := year_of_lastUpdated h x hx t ht
    unfold Time.FourDigits
    omega
  refine ⟨rfl, ?_⟩
  rw [← hdated]
  by_cases hall : ∀ x ∈ entries, x.Dated
  · rw [reread_of_dated hall]
    refine ⟨⟨fun _ => hall, fun _ => ⟨_, rfl⟩⟩, ?_, nofun⟩
    intro again hagain
    cases hagain
    exact ⟨rfl, deliver_truncated .unlimited entries⟩
  · rw [reread_of_undated hall]
    refine ⟨⟨nofun, fun h => absurd h hall⟩, nofun, ?_⟩
    intro error herror
    cases herror
    rfl

/-- An entry as a list, with the last minute but one of the year 9999 in UTC and an attribute that
is given twice. -/
theorem stored_entries_are_readable_up_to_year_9999 :
    let text := "[[\"a\",\"v\",\"9999-12-31T23:59:59.9999+00:01\",\x7b\"k\":\"1\",\"k\":\"2\"\x7d]]"
    let source : Source := ⟨Text.bytes text, .closed⟩
    let entries : List Entry :=
      [⟨some "a", "v", some ⟨253402300739, 999900000, by decide, by decide⟩, .ofList [("k", "2")]⟩]
    (readQueryResult .acceptAll source).outcome = .ok entries ∧
    ∃ again, (reread entries).outcome = .ok again ∧
      again = [⟨some "a", "v", some ⟨253402300739, 999000000, by decide, by decide⟩,
        .ofList [("k", "2")]⟩] ∧
      deliver .unlimited again = deliver .unlimited entries := by
  intro text source entries
  have hread : (readQueryResult .acceptAll source).outcome = .ok entries := by decide +kernel
  obtain ⟨-, hiff, hsame, -⟩ := stored_entries_are_readable_iff hread
  have hyears : ∀ x ∈ entries, ∀ t, x.lastUpdated = some t →
      t.date.year ≠ -1 ∧ t.date.year ≠ 10000 := by
    intro x hx t ht
    rw [List.mem_singleton.1 hx] at ht
    cases ht
    decide
  obtain ⟨again, hagain⟩ := hiff.2 hyears
  exact ⟨hread, again, hagain, (hsame again hagain).1, (hsame again hagain).2⟩

/-- The last second of the year 9999, an hour behind UTC. -/
theorem year_10000_is_not_read_again :
    let text := "[\x7b\"version\":\"v\",\"lastUpdated\":\"9999-12-31T23:59:59-01:00\"\x7d]"
    let source : Source := ⟨Text.bytes text, .closed⟩
    ∃ entries, (readQueryResult .acceptAll source).outcome = .ok entries ∧
      (deliver .unlimited entries).written = Text.bytes
        "[\x7b\"version\":\"v\",\"lastUpdated\":\"+10000-01-01T00:59:59.000Z\"\x7d]" ∧
      (reread entries).outcome ≠ .ok (entries.map .truncated) := by
  intro text source
  refine ⟨[⟨none, "v", some ⟨253402304399, 0, by decide, by decide⟩, .empty⟩], ?_, ?_, ?_⟩
  · decide +kernel
  · decide +kernel
  · decide +kernel

end BucketDigest.Wire
