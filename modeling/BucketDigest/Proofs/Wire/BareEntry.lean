import BucketDigest.Proofs.Json.Lookahead.Skip
import BucketDigest.Proofs.Wire.Deciding

/-!
# Bare entries

Where a bare entry is allowed, it is read as a list of one entry is: the same documents are taken,
with the same entry, and the same entries are refused. Nothing but white space may follow it, which
is what may stand before the closing bracket of the list.

* `settled_readMembers`: an entry ends with its closing brace, and what follows is not looked at.
* `readBareEntry_eq_ok_iff`, `readItems_eq_ok_iff`: when one entry is read.

Main statement: `bare_entry_is_read_as_list`.
-/
namespace BucketDigest.Wire

open Json

variable {loose : Bool} {e : Ending} {s rest : List UInt8}

/-! ## Values of members -/

theorem settled_readTimestamp {time : Option Time.Timestamp}
    (h : readTimestamp e s = .ok (time, rest)) :
    Settled loose readTimestamp (Prod.mk time) s rest := by
  unfold readTimestamp at h
  split at h
  · cases h
  · next s₁ h₁ =>
    cases h
    refine (settled_readOptionalText h₁).last fun d u t hu => ?_
    rw [readTimestamp, hu]
  · next text s₁ h₁ =>
    split at h
    · cases h
    next t hread =>
    cases h
    refine (settled_readOptionalText h₁).last fun d u t hu => ?_
    rw [readTimestamp, hu]
    dsimp only
    rw [hread]

theorem settled_readMemberText {text : String} (h : readMemberText e s = .ok (text, rest)) :
    Settled loose readMemberText (Prod.mk text) s rest := by
  unfold readMemberText at h
  split at h
  · cases h
  next s₁ h₁ =>
  refine (settled_skipColon h₁).bind (settled_readText h) fun d u t hu => ?_
  rw [readMemberText, hu]
  rfl

theorem settled_readPairs {first : Bool} {attributes a : Attributes}
    (h : readPairs e first attributes s = .ok (a, rest)) :
    Settled loose (fun d => readPairs d first attributes) (Prod.mk a) s rest := by
  fun_induction readPairs e first attributes s with
  | case1 => cases h
  | case2 first attributes s s₁ h₁ =>
    cases h
    refine (settled_nextKey h₁).last fun d u t hu => ?_
    rw [readPairs_eq, hu]
  | case3 => cases h
  | case4 first attributes s key s₁ h₁ value s₂ h₂ ih =>
    refine (settled_nextKey h₁).bind (?_ : Settled _ (fun d t => _) _ _ _) fun d u t hu => by
      rw [readPairs_eq, hu]
    refine (settled_readMemberText h₂).bind (ih h) fun d u t hu => ?_
    dsimp only
    rw [hu]

theorem settled_readAttributes {a : Attributes} (h : readAttributes e s = .ok (a, rest)) :
    Settled loose readAttributes (Prod.mk a) s rest := by
  unfold readAttributes at h
  split at h
  · cases h
  next b s₁ h₁ =>
  split at h
  · next hbrace =>
    refine (settled_next h₁).bind (settled_readPairs h) fun d u t hu => ?_
    rw [readAttributes, hu]
    exact if_pos hbrace
  · cases h

/-! ## Objects -/

theorem settled_read {m m' : Members} {key : String} (h : m.read e key s = .ok (m', rest)) :
    Settled true (fun d => m.read d key) (Prod.mk m') s rest := by
  unfold Members.read at h
  split at h
  · next hid =>
    obtain ⟨⟨id, s₁⟩, h₁, hm⟩ := map_eq_ok.1 h
    cases hm
    refine (settled_readOnce settled_readOptionalText h₁).last fun d u t hu => ?_
    rw [Members.read, if_pos hid, hu]
    rfl
  next hid =>
  split at h
  · next hversion =>
    obtain ⟨⟨version, s₁⟩, h₁, hm⟩ := map_eq_ok.1 h
    cases hm
    refine (settled_readOnce settled_readText h₁).last fun d u t hu => ?_
    rw [Members.read, if_neg hid, if_pos hversion, hu]
    rfl
  next hversion =>
  split at h
  · next htime =>
    obtain ⟨⟨time, s₁⟩, h₁, hm⟩ := map_eq_ok.1 h
    cases hm
    refine (settled_readOnce settled_readTimestamp h₁).last fun d u t hu => ?_
    rw [Members.read, if_neg hid, if_neg hversion, if_pos htime, hu]
    rfl
  next htime =>
  split at h
  · next hattributes =>
    obtain ⟨⟨a, s₁⟩, h₁, hm⟩ := map_eq_ok.1 h
    cases hm
    refine (settled_readOnce settled_readAttributes h₁).last fun d u t hu => ?_
    rw [Members.read, if_neg hid, if_neg hversion, if_neg htime, if_pos hattributes, hu]
    rfl
  next hattributes =>
  split at h
  · cases h
  next s₁ h₁ =>
  obtain ⟨s₂, h₂, hm⟩ := map_eq_ok.1 h
  cases hm
  refine (settled_skipColon h₁).bind (?_ : Settled _ (fun d t => _) _ _ _) fun d u t hu => by
    rw [Members.read, if_neg hid, if_neg hversion, if_neg htime, if_neg hattributes, hu]
  refine (settled_skipValue h₂).last fun d u t hu => ?_
  dsimp only [id]
  rw [hu]
  rfl

theorem next_of_nextKey_none {first : Bool} (h : nextKey e first s = .ok (none, rest)) :
    next e .object s = .ok (octet '\x7d', rest) := by
  have hkey : ∀ {u}, readKey e u ≠ .ok (none, rest) := by
    intro u hu
    unfold readKey at hu
    split at hu <;> cases hu
  unfold nextKey at h
  split at h
  · cases h
  next b s₁ h₁ =>
  split at h
  · next hclose =>
    cases h
    rw [h₁, hclose]
  · exfalso
    repeat' split at h
    all_goals first | exact hkey h | cases h

/-- An entry is settled by the octets up to its closing brace, which is no white space. -/
theorem settled_readMembers {first : Bool} {m : Members} {x : Entry}
    (h : readMembers e first m s = .ok (x, rest)) :
    ∃ q, ¬AllSpace q ∧ s = q ++ rest ∧ ∀ d t, readMembers d first m (q ++ t) = .ok (x, t) := by
  fun_induction readMembers e first m s with
  | case1 => cases h
  | case2 first m s s₁ h₁ =>
    obtain ⟨x', hx, hrest⟩ := map_eq_ok.1 h
    cases hrest
    obtain ⟨hbrace, sp, hsp, rfl⟩ := next_eq_ok_iff.1 (next_of_nextKey_none h₁)
    refine ⟨sp ++ [octet '\x7d'], not_allSpace_append (fun hall => ?_) sp,
      List.append_cons .., fun d t => ?_⟩
    · rw [hall _ (List.mem_singleton_self _)] at hbrace
      cases hbrace
    · have hend : nextKey d first (sp ++ octet '\x7d' :: t) = .ok (none, t) := by
        unfold nextKey
        rw [next_append hsp hbrace]
        exact if_pos rfl
      rw [List.append_assoc, readMembers_eq, List.singleton_append, hend]
      dsimp only
      rw [hx]
      rfl
  | case3 => cases h
  | case4 first m s key s₁ h₁ m' s₂ h₂ ih =>
    obtain ⟨q₁, rfl, hq₁⟩ : Settled false _ _ _ _ := settled_nextKey h₁
    obtain ⟨q₂, rfl, hq₂⟩ := settled_read h₂
    obtain ⟨q₃, hspace, rfl, hq₃⟩ := ih h
    refine ⟨q₁ ++ (q₂ ++ q₃), not_allSpace_append (not_allSpace_append hspace q₂) q₁, by simp,
      fun d t => ?_⟩
    have hkey := hq₁ d (q₂ ++ (q₃ ++ t)) fun h => absurd h Bool.false_ne_true
    -- A member that may go on is over, because the next token follows.
    have hmember := hq₂ d (q₃ ++ t) fun _ => ⟨q₃, t, rest, hspace, rfl, rfl⟩
    dsimp only at hkey hmember
    rw [List.append_assoc, List.append_assoc, readMembers_eq, hkey]
    dsimp only
    rw [hmember]
    exact hq₃ d t

/-! ## The end of a collection -/

variable {v : Validator} {es : List Entry}

theorem ended_eq_ok_iff :
    (Reading.ended e s).outcome = .ok es ↔ AllSpace s ∧ e = .closed ∧ es = [] := by
  unfold Reading.ended finish
  constructor
  · intro h
    cases hs : skipSpace s with
    | cons b q => rw [hs] at h; cases h
    | nil =>
      rw [hs] at h
      cases e with
      | failing reason => cases h
      | closed => cases h; exact ⟨List.dropWhile_eq_nil_iff.1 hs, rfl, rfl⟩
  · rintro ⟨hs, rfl, rfl⟩
    have hnil : skipSpace s = [] := List.dropWhile_eq_nil_iff.2 hs
    rw [hnil]
    rfl

theorem after_eq_ok_iff {x : Entry} {r : Reading} :
    (r.after x).outcome = .ok es ↔ ∃ es', r.outcome = .ok es' ∧ es = x :: es' := by
  unfold Reading.after
  cases r.outcome with
  | error error => simp [Except.map]
  | ok es' => simp [Except.map, eq_comm]

theorem nextElement_eq_end_iff {first : Bool} :
    nextElement e first s = .ok (false, rest) ↔ next e .list s = .ok (octet ']', rest) := by
  unfold nextElement
  constructor
  · intro h
    split at h
    · cases h
    next b s₁ h₁ =>
    split at h
    · next hclose =>
      cases h
      rw [h₁, hclose]
    · exfalso
      repeat' split at h
      all_goals cases h
  · intro h
    rw [h]
    exact if_pos rfl

/-- The entries of a list are over just if its closing bracket stands there, and nothing else. -/
theorem readItems_eq_nil_iff {first : Bool} :
    (readItems e v first s).outcome = .ok [] ↔
      e = .closed ∧ ∃ sp after, AllSpace sp ∧ AllSpace after ∧ s = sp ++ octet ']' :: after := by
  constructor
  · intro h
    rw [readItems_eq] at h
    split at h
    · cases h
    · next s₁ hnext =>
      obtain ⟨hafter, rfl, -⟩ := ended_eq_ok_iff.1 h
      obtain ⟨-, sp, hsp, rfl⟩ := next_eq_ok_iff.1 (nextElement_eq_end_iff.1 hnext)
      exact ⟨rfl, sp, s₁, hsp, hafter, rfl⟩
    · split at h
      · cases h
      split at h
      · cases h
      · obtain ⟨es, -, hes⟩ := after_eq_ok_iff.1 h
        cases hes
  · rintro ⟨rfl, sp, after, hsp, hafter, rfl⟩
    have hend : nextElement .closed first (sp ++ octet ']' :: after) = .ok (false, after) :=
      nextElement_eq_end_iff.2 (next_append hsp rfl .list after)
    rw [readItems_of_end hend]
    exact ended_eq_ok_iff.2 ⟨hafter, rfl, rfl⟩

/-! ## One entry -/

variable {p sp : List UInt8} {x : Entry}

theorem readBareEntry_eq_ok_iff :
    (readBareEntry e v p).outcome = .ok es ↔ e = .closed ∧
      ∃ x sp, readMembers e true .none p = .ok (x, sp) ∧ AllSpace sp ∧ v x = .ok () ∧ es = [x] := by
  unfold readBareEntry
  constructor
  · intro h
    split at h
    · cases h
    next x sp hread =>
    split at h
    · cases h
    next hv =>
    obtain ⟨es', hended, rfl⟩ := after_eq_ok_iff.1 h
    obtain ⟨hsp, rfl, rfl⟩ := ended_eq_ok_iff.1 hended
    exact ⟨rfl, x, sp, hread, hsp, hv, rfl⟩
  · rintro ⟨rfl, x, sp, hread, hsp, hv, rfl⟩
    rw [hread]
    dsimp only
    rw [hv]
    exact after_eq_ok_iff.2 ⟨[], ended_eq_ok_iff.2 ⟨hsp, rfl, rfl⟩, rfl⟩

theorem readEntry_of_object (hsp : AllSpace sp) :
    readEntry e (sp ++ octet '\x7b' :: p) = readMembers e true .none p := by
  unfold readEntry
  rw [next_append hsp (by decide)]
  exact if_pos rfl

theorem nextElement_of_object (hsp : AllSpace sp) :
    nextElement e true (sp ++ octet '\x7b' :: p) = .ok (true, sp ++ octet '\x7b' :: p) := by
  unfold nextElement
  rw [next_append hsp (by decide)]
  rfl

/-- A list of one object is read just if the object is, up to the closing bracket. -/
theorem readItems_of_object_iff (hsp : AllSpace sp) (hone : es.length = 1) :
    (readItems e v true (sp ++ octet '\x7b' :: p)).outcome = .ok es ↔ e = .closed ∧
      ∃ x s₁ s₂, readMembers e true .none p = .ok (x, s₁ ++ octet ']' :: s₂) ∧ AllSpace s₁ ∧
        AllSpace s₂ ∧ v x = .ok () ∧ es = [x] := by
  rw [readItems_of_more (nextElement_of_object hsp), readEntry_of_object hsp]
  constructor
  · intro h
    split at h
    · cases h
    next x rest hread =>
    split at h
    · cases h
    next hv =>
    obtain ⟨es', hitems, rfl⟩ := after_eq_ok_iff.1 h
    obtain rfl : es' = [] := List.eq_nil_of_length_eq_zero (Nat.succ.inj hone)
    obtain ⟨rfl, s₁, s₂, hs₁, hs₂, rfl⟩ := readItems_eq_nil_iff.1 hitems
    exact ⟨rfl, x, s₁, s₂, hread, hs₁, hs₂, hv, rfl⟩
  · rintro ⟨rfl, x, s₁, s₂, hread, hs₁, hs₂, hv, rfl⟩
    rw [hread]
    dsimp only
    rw [hv]
    exact after_eq_ok_iff.2 ⟨[], readItems_eq_nil_iff.2 ⟨rfl, s₁, s₂, hs₁, hs₂, rfl⟩, rfl⟩

/-- With a closing bracket behind it, an object is read with only white space around the bracket
just if it is read with only white space behind it. -/
theorem readMembers_closing_iff :
    (∃ s₁ s₂, readMembers e true .none (p ++ [octet ']']) = .ok (x, s₁ ++ octet ']' :: s₂) ∧
      AllSpace s₁ ∧ AllSpace s₂) ↔
    ∃ sp, readMembers e true .none p = .ok (x, sp) ∧ AllSpace sp := by
  constructor
  · rintro ⟨s₁, s₂, hread, hs₁, hs₂⟩
    obtain ⟨q, -, hsplit, hq⟩ := settled_readMembers hread
    -- The last octet is the bracket, so no white space is left behind it.
    have hnil : s₂ = [] := by
      obtain rfl | ⟨s₂, b, rfl⟩ := List.eq_nil_or_concat s₂
      · rfl
      · have hlast : p ++ [octet ']'] = q ++ (s₁ ++ octet ']' :: s₂) ++ [b] := by
          rw [hsplit]
          simp
        have hb : octet ']' = b := List.singleton_inj.1 (List.append_inj_right' hlast rfl)
        have hspace := hs₂ b (by simp)
        rw [← hb] at hspace
        cases hspace
    subst hnil
    rw [← List.append_assoc] at hsplit
    refine ⟨s₁, ?_, hs₁⟩
    rw [List.append_cancel_right hsplit]
    exact hq e s₁
  · rintro ⟨sp, hread, hsp⟩
    obtain ⟨q, -, rfl, hq⟩ := settled_readMembers hread
    refine ⟨sp, [], ?_, hsp, nofun⟩
    rw [List.append_assoc]
    exact hq e _

/-! ## Either form -/

/-- The octets of a list with the given ones between its brackets. -/
def asList (s : List UInt8) : List UInt8 := octet '[' :: (s ++ [octet ']'])

theorem readQueryResult_asList :
    readQueryResult v ⟨asList s, e⟩ = readItems e v true (s ++ [octet ']']) := by
  unfold readQueryResult readCollection asList
  dsimp only
  rw [next_cons (by decide)]
  exact if_pos rfl

theorem readCollection_of_object {bare : List UInt8 → Reading} (hsp : AllSpace sp) :
    readCollection e v bare (sp ++ octet '\x7b' :: p) = bare p := by
  unfold readCollection
  rw [next_append hsp (by decide)]
  rfl

theorem readCollection_of_ne_object {bare bare' : List UInt8 → Reading}
    (h : (skipSpace s).head? ≠ some (octet '\x7b')) :
    readCollection e v bare s = readCollection e v bare' s := by
  unfold readCollection next
  cases hs : skipSpace s with
  | nil => rfl
  | cons b q =>
    have hb : b ≠ octet '\x7b' := by
      rintro rfl
      exact h (by rw [hs]; rfl)
    dsimp only
    rw [if_neg hb, if_neg hb]

theorem exists_of_head?_skipSpace {b : UInt8} (h : (skipSpace s).head? = some b) :
    ∃ sp q, AllSpace sp ∧ s = sp ++ b :: q := by
  obtain ⟨q, hq⟩ := List.head?_eq_some_iff.1 h
  have hnext : next .closed .value s = .ok (b, q) := by
    unfold next
    rw [hq]
  obtain ⟨-, sp, hsp, rfl⟩ := next_eq_ok_iff.1 hnext
  exact ⟨sp, q, hsp, rfl⟩

/-- **Bare entries.** A document that does not start with a brace is read alike whether bare entries
are allowed or not. One that does is refused where they are not allowed. Where they are, it is read
just if in brackets it is read as a list of one entry, and gives the same entry. If it is an entry
that the validator refuses, both forms end with that refusal. -/
theorem bare_entry_is_read_as_list (v : Validator) (s : List UInt8) (e : Ending) :
    ((skipSpace s).head? ≠ some (octet '\x7b') →
      readEntries v ⟨s, e⟩ = readQueryResult v ⟨s, e⟩) ∧
    ((skipSpace s).head? = some (octet '\x7b') →
      readQueryResult v ⟨s, e⟩ = .failed (.expectedArray .object) ∧
      (∀ es, (readEntries v ⟨s, e⟩).outcome = .ok es ↔
        es.length = 1 ∧ (readQueryResult v ⟨asList s, e⟩).outcome = .ok es) ∧
      ∀ x error, IsEntry s x → v x = .error error →
        readEntries v ⟨s, e⟩ = .refused x error ∧
        readQueryResult v ⟨asList s, e⟩ = .refused x error) := by
  refine ⟨fun h => readCollection_of_ne_object h, fun h => ?_⟩
  obtain ⟨sp, p, hsp, rfl⟩ := exists_of_head?_skipSpace h
  have hentries : readEntries v ⟨sp ++ octet '\x7b' :: p, e⟩ = readBareEntry e v p :=
    readCollection_of_object hsp
  have hlist : readQueryResult v ⟨asList (sp ++ octet '\x7b' :: p), e⟩ =
      readItems e v true (sp ++ octet '\x7b' :: (p ++ [octet ']'])) := by
    rw [readQueryResult_asList, List.append_assoc, List.cons_append]
  refine ⟨readCollection_of_object hsp, fun es => ?_, fun x error hentry hv => ?_⟩
  · rw [hentries, hlist, readBareEntry_eq_ok_iff]
    constructor
    · rintro ⟨he, x, after, hread, hafter, hv, rfl⟩
      obtain ⟨s₁, s₂, hmore, hs₁, hs₂⟩ := readMembers_closing_iff.2 ⟨after, hread, hafter⟩
      exact ⟨rfl, (readItems_of_object_iff hsp rfl).2 ⟨he, x, s₁, s₂, hmore, hs₁, hs₂, hv, rfl⟩⟩
    · rintro ⟨hone, hitems⟩
      obtain ⟨he, x, s₁, s₂, hmore, hs₁, hs₂, hv, rfl⟩ :=
        (readItems_of_object_iff hsp hone).1 hitems
      obtain ⟨after, hread, hafter⟩ := readMembers_closing_iff.1 ⟨s₁, s₂, hmore, hs₁, hs₂⟩
      exact ⟨he, x, after, hread, hafter, hv, rfl⟩
  · obtain ⟨after, -, hread⟩ := hentry
    rw [readEntry_of_object hsp] at hread
    obtain ⟨q, -, rfl, hq⟩ := settled_readMembers hread
    constructor
    · rw [hentries]
      unfold readBareEntry
      rw [hq]
      dsimp only
      rw [hv]
    · rw [hlist, List.append_assoc]
      have hread' : readEntry e (sp ++ octet '\x7b' :: (q ++ (after ++ [octet ']']))) =
          .ok (x, after ++ [octet ']']) := by
        rw [readEntry_of_object hsp]
        exact hq e _
      exact readItems_of_refused (nextElement_of_object hsp) hread' hv

/-- The word `null`, an entry with an unknown member, and one with an empty id. -/
theorem bare_entry_is_read_as_list_of_three_documents :
    let s := Text.bytes "\x7b\"x\":[1],\"version\":\"v\"\x7d "
    let t := Text.bytes "\x7b\"id\":\"\",\"version\":\"v\"\x7d"
    readEntries .cleanId ⟨Text.bytes " null", .closed⟩ =
        readQueryResult .cleanId ⟨Text.bytes " null", .closed⟩ ∧
      (readQueryResult .cleanId ⟨asList s, .closed⟩).outcome = .ok [⟨none, "v", none, .empty⟩] ∧
      readEntries .cleanId ⟨t, .closed⟩ =
        .refused ⟨some "", "v", none, .empty⟩ (.rejected (some "") "empty id") := by
  intro s t
  refine ⟨(bare_entry_is_read_as_list .cleanId _ .closed).1 (by decide +kernel), ?_, ?_⟩
  · have hentries : (readEntries .cleanId ⟨s, .closed⟩).outcome =
        .ok [⟨none, "v", none, .empty⟩] := by decide +kernel
    exact (((bare_entry_is_read_as_list .cleanId s .closed).2 (by decide +kernel)).2.1 _).1
      hentries |>.2
  · have hentry : IsEntry t ⟨some "", "v", none, .empty⟩ := ⟨[], nofun, by decide +kernel⟩
    exact (((bare_entry_is_read_as_list .cleanId t .closed).2 (by decide +kernel)).2.2 _ _ hentry
      (by decide +kernel)).1

end BucketDigest.Wire
