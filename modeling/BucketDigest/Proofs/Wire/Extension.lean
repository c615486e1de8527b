import BucketDigest.Proofs.Json.Extension.Members
import BucketDigest.Proofs.Json.Members
import BucketDigest.Wire.EntryReader

/-!
# Entries that are followed by others

An entry ends with its closing brace or bracket, so that nothing after it is looked at. There is one
place where a fault depends on more: behind a comma after the fourth value of a list the next octet
tells which fault it is, but is not waited for.

* `extends_readMembers`: entries as objects.
* `readElements_cases`: entries as lists, with that exception (`EndInComma`).
* `readEntry_cases`: entries in either form.
-/
namespace BucketDigest.Wire

open Json

variable (loose : Bool) (e d : Ending) (p s : List UInt8)

/-! ## Values of members -/

theorem extends_readTimestamp :
    Extends loose e p s (readTimestamp e p) (readTimestamp d (p ++ s)) := by
  unfold readTimestamp
  refine (extends_readOptionalText false e d p s).step .fails (fun _ h _ => .waits h)
    fun text q hq => ?_
  cases text with
  | none => exact .same (none, q) hq
  | some text =>
    dsimp only
    cases Time.Rfc3339.read text with
    | error f => exact .fails _
    | ok t => exact .same (some t, q) hq

theorem extends_readMemberText :
    Extends loose e p s (readMemberText e p) (readMemberText d (p ++ s)) := by
  unfold readMemberText
  refine (extends_skipColon false e d p s).skip .fails (fun _ h _ => .waits h) fun q hq => ?_
  exact (extends_readText loose e d q s).mono hq

theorem extends_readPairs (loose : Bool) (e d : Ending) (first : Bool) (attributes : Attributes)
    (p s : List UInt8) :
    Extends loose e p s (readPairs e first attributes p)
      (readPairs d first attributes (p ++ s)) := by
  rw [readPairs_eq, readPairs_eq]
  have h := extends_nextKey false e d p s first
  generalize hx : nextKey e first p = x at h ⊢
  generalize nextKey d first (p ++ s) = y at h ⊢
  cases h with
  | fails f => exact .fails f
  | waits hf => exact .waits hf
  | goesOn hloose => cases hloose
  | same r hr =>
    obtain ⟨key, q⟩ := r
    have : q.length < p.length := length_nextKey_lt hx
    refine .mono ?_ hr
    cases key with
    | none => exact .same (attributes, q) (List.suffix_refl _)
    | some key =>
      dsimp only [rest_pair, append_pair]
      refine (extends_readMemberText false e d q s).step .fails (fun _ h _ => .waits h)
        fun value r hr => ?_
      have := hr.length_le
      exact (extends_readPairs loose e d false _ r s).mono hr
termination_by p.length

theorem extends_readAttributes :
    Extends loose e p s (readAttributes e p) (readAttributes d (p ++ s)) := by
  unfold readAttributes
  refine (extends_next false e d p s _).step .fails (fun _ h _ => .waits h) fun b q hq => ?_
  refine .mono ?_ hq
  dsimp only
  split
  · exact extends_readPairs loose e d true .empty q s
  · exact extends_wrongType loose e d q s _ b

/-! ## Objects -/

theorem extends_read (m : Members) (key : String) :
    Extends true e p s (m.read e key p) (m.read d key (p ++ s)) := by
  unfold Members.read
  split
  · exact (extends_readOnce true e d p s fun q => extends_readOptionalText true e d q s).map
      (fun _ => rfl) fun _ => rfl
  split
  · exact (extends_readOnce true e d p s fun q => extends_readText true e d q s).map
      (fun _ => rfl) fun _ => rfl
  split
  · exact (extends_readOnce true e d p s fun q => extends_readTimestamp true e d q s).map
      (fun _ => rfl) fun _ => rfl
  split
  · exact (extends_readOnce true e d p s fun q => extends_readAttributes true e d q s).map
      (fun _ => rfl) fun _ => rfl
  · refine (extends_skipColon false e d p s).skip .fails (fun _ h _ => .waits h) fun q hq => ?_
    exact ((extends_skipValue e d q s).mono hq).map (fun _ => rfl) fun _ => rfl

theorem extends_readMembers (e d : Ending) (first : Bool) (m : Members) (p s : List UInt8) :
    Extends false e p s (readMembers e first m p) (readMembers d first m (p ++ s)) := by
  rw [readMembers_eq, readMembers_eq]
  have h := extends_nextKey false e d p s first
  generalize hx : nextKey e first p = x at h ⊢
  generalize nextKey d first (p ++ s) = y at h ⊢
  cases h with
  | fails f => exact .fails f
  | waits hf => exact .waits hf
  | goesOn hloose => cases hloose
  | same r hr =>
    obtain ⟨key, q⟩ := r
    have : q.length < p.length := length_nextKey_lt hx
    refine .mono ?_ hr
    cases key with
    | none =>
      dsimp only
      cases m.entry with
      | error f => exact .fails _
      | ok entry => exact .same (entry, q) (List.suffix_refl _)
    | some key =>
      dsimp only [rest_pair, append_pair]
      refine (extends_read e d q s m key).chain .fails (fun _ h _ => .waits h)
        (fun r hr => ?_) fun he r hr z => ?_
      · have : r.2.length ≤ q.length := hr.length_le
        exact (extends_readMembers e d false r.1 r.2 s).mono hr
      · -- A member that may go on cannot be the last, since the closing brace is still due.
        obtain ⟨m, rfl⟩ : ∃ m, r = (m, []) := ⟨r.1, Prod.ext rfl hr⟩
        subst he
        dsimp only
        rw [readMembers_eq]
        exact .of_closed rfl
termination_by p.length

/-! ## Lists -/

/-- Reads an entry after its opening bracket up to its end, or up to its fourth value; whether the
closing bracket is still due, and what is left. -/
def readValues (e : Ending) (s : List UInt8) : Except Fault ((Entry × Bool) × List UInt8) := do
  match ← nextElement e true s with
  | (false, _) => throw tooShort
  | (true, s) =>
    let (id, s) ← readOptionalText e s
    match ← nextElement e false s with
    | (false, _) => throw tooShort
    | (true, s) =>
      let (version, s) ← readText e s
      match ← nextElement e false s with
      | (false, s) => return ((⟨id, version, none, .empty⟩, false), s)
      | (true, s) =>
        let (lastUpdated, s) ← readTimestamp e s
        match ← nextElement e false s with
        | (false, s) => return ((⟨id, version, lastUpdated, .empty⟩, false), s)
        | (true, s) =>
          let (attributes, s) ← readAttributes e s
          return ((⟨id, version, lastUpdated, attributes⟩, true), s)

theorem readElements_eq :
    readElements e p =
      match readValues e p with
      | .error f => .error f
      | .ok ((entry, false), q) => .ok (entry, q)
      | .ok ((entry, true), q) => (endList e q).map fun r => (entry, r) := by
  unfold readElements readValues
  obtain f | ⟨more, q⟩ := nextElement e true p
  · rfl
  cases more with
  | false => rfl
  | true =>
    dsimp only [bind, Except.bind]
    obtain f | ⟨id, q⟩ := readOptionalText e q
    · rfl
    dsimp only
    obtain f | ⟨more, q⟩ := nextElement e false q
    · rfl
    cases more with
    | false => rfl
    | true =>
      dsimp only
      obtain f | ⟨version, q⟩ := readText e q
      · rfl
      dsimp only
      obtain f | ⟨more, q⟩ := nextElement e false q
      · rfl
      cases more with
      | false => rfl
      | true =>
        dsimp only
        obtain f | ⟨lastUpdated, q⟩ := readTimestamp e q
        · rfl
        dsimp only
        obtain f | ⟨more, q⟩ := nextElement e false q
        · rfl
        cases more with
        | false => rfl
        | true =>
          dsimp only
          obtain f | ⟨attributes, q⟩ := readAttributes e q
          · rfl
          · rfl

theorem extends_readValues :
    Extends loose e p s (readValues e p) (readValues d (p ++ s)) := by
  unfold readValues
  refine (extends_nextElement false e d p s true).bind fun more q => ?_
  cases more with
  | false => exact .fails _
  | true =>
    refine (extends_readOptionalText false e d q s).bind fun id q => ?_
    refine (extends_nextElement false e d q s false).bind fun more q => ?_
    cases more with
    | false => exact .fails _
    | true =>
      refine (extends_readText false e d q s).bind fun version q => ?_
      refine (extends_nextElement false e d q s false).bind fun more q => ?_
      cases more with
      | false => exact .same ((Entry.mk id version none .empty, false), q) (List.suffix_refl _)
      | true =>
        refine (extends_readTimestamp false e d q s).bind fun lastUpdated q => ?_
        refine (extends_nextElement false e d q s false).bind fun more q => ?_
        cases more with
        | false =>
          exact .same ((Entry.mk id version lastUpdated .empty, false), q) (List.suffix_refl _)
        | true =>
          refine (extends_readAttributes false e d q s).bind fun attributes q => ?_
          exact .same ((Entry.mk id version lastUpdated attributes, true), q) (List.suffix_refl _)

/-- The flaw of a list with a comma after its fourth value and then `s`. -/
def commaFlaw (s : List UInt8) : Flaw :=
  if (skipSpace s).head? = some (octet ']') then .trailingComma else .trailingCharacters

/-- The octets end, white space aside, in a comma after the fourth value of an entry. -/
def EndInComma (p : List UInt8) : Prop :=
  ∃ t entry before after, octet '[' :: t <:+ p ∧
    (∀ e, readValues e t = .ok ((entry, true), before ++ octet ',' :: after)) ∧
    AllSpace before ∧ AllSpace after

theorem EndInComma.mono {p q : List UInt8} (h : EndInComma q) (hq : q <:+ p) : EndInComma p := by
  obtain ⟨t, entry, before, after, ht, h⟩ := h
  exact ⟨t, entry, before, after, ht.trans hq, h⟩

/-- The closing bracket of an entry with four values. -/
theorem endList_cases :
    (∀ d s, Extends false e p s (endList e p) (endList d (p ++ s))) ∨
    e ≠ .closed ∧ ∃ before after, p = before ++ octet ',' :: after ∧ AllSpace before ∧
      AllSpace after ∧ endList e p = .error (.malformed .trailingCharacters) ∧
      ∀ d s, endList d (p ++ s) = .error (.malformed (commaFlaw s)) := by
  have hne : octet ',' ≠ octet ']' := by decide
  by_cases hcomma : e ≠ .closed ∧
      ∃ before after, p = before ++ octet ',' :: after ∧ AllSpace before ∧ AllSpace after
  · obtain ⟨he, before, after, rfl, hbefore, hafter⟩ := hcomma
    have hmore : ∀ d s, endList d (before ++ octet ',' :: (after ++ s)) =
        .error (.malformed (commaFlaw s)) := by
      intro d s
      unfold endList commaFlaw
      rw [next_append hbefore rfl]
      dsimp only
      rw [if_neg hne, skipSpace_of_allSpace s hafter]
      by_cases hbracket : (skipSpace s).head? = some (octet ']')
      · rw [if_pos ⟨rfl, hbracket⟩, if_pos hbracket]
      · rw [if_neg (fun h => hbracket h.2), if_neg hbracket]
    have hfirst := hmore e []
    rw [List.append_nil] at hfirst
    refine .inr ⟨he, before, after, rfl, hbefore, hafter, hfirst, fun d s => ?_⟩
    rw [List.append_assoc, List.cons_append, hmore]
  refine .inl fun d s => ?_
  unfold endList
  obtain ⟨f, hf, hp⟩ | ⟨b, q, hq, hp, hps⟩ := next_cases e d p s .list
  · rw [hp]
    exact .waits hf
  rw [hp, hps]
  dsimp only
  by_cases hclose : b = octet ']'
  · rw [if_pos hclose, if_pos hclose]
    exact .same q ((List.suffix_cons b q).trans hq)
  rw [if_neg hclose, if_neg hclose]
  cases hrest : skipSpace q with
  | cons c r =>
    rw [skipSpace_append (by simp [hrest]), hrest, List.cons_append, List.head?_cons,
      List.head?_cons]
    split
    · exact .fails _
    · exact .fails _
  | nil =>
    rw [if_neg (fun h => by cases h.2)]
    by_cases he : e = .closed
    · exact .of_closed he
    · -- Any other octet than a comma is at fault itself.
      have hb : b ≠ octet ',' := by
        intro hb
        obtain ⟨-, before, hbefore, hsplit⟩ := next_eq_ok_iff.1 hp
        exact hcomma ⟨he, before, q, hb ▸ hsplit, hbefore, List.dropWhile_eq_nil_iff.1 hrest⟩
      rw [if_neg (fun h => hb h.1)]
      exact .fails _

theorem readElements_cases :
    (∀ d s, Extends false e p s (readElements e p) (readElements d (p ++ s))) ∨
    e ≠ .closed ∧ ∃ entry before after,
      (∀ e, readValues e p = .ok ((entry, true), before ++ octet ',' :: after)) ∧
      AllSpace before ∧ AllSpace after ∧
      readElements e p = .error (.malformed .trailingCharacters) ∧
      ∀ d s, readElements d (p ++ s) = .error (.malformed (commaFlaw s)) := by
  have h := fun d s => extends_readValues false e d p s
  simp only [readElements_eq]
  cases hx : readValues e p with
  | error f =>
    rw [hx] at h
    refine .inl fun d s => ?_
    obtain hf | hmore := (h d s).of_error
    · exact .waits hf
    · rw [hmore]
      exact .fails f
  | ok r =>
    obtain ⟨⟨entry, due⟩, q⟩ := r
    rw [hx] at h
    have hmore := fun d s => (h d s).of_ok.2
    have hq := (h e []).of_ok.1
    simp only [hmore, append_pair]
    cases due with
    | false => exact .inl fun d s => .same (entry, q) hq
    | true =>
      refine (endList_cases e q).imp
        (fun h d s => ((h d s).mono hq).map (fun _ => rfl) fun _ => rfl)
        fun ⟨he, before, after, hsplit, hbefore, hafter, hfirst, hmore'⟩ => ?_
      refine ⟨he, entry, before, after, fun d => ?_, hbefore, hafter, ?_, fun d s => ?_⟩
      · have hsame := hmore d []
        rwa [List.append_nil, append_pair, List.append_nil, hsplit] at hsame
      · dsimp only
        rw [hfirst]
        rfl
      · dsimp only
        rw [hmore']
        rfl

/-! ## Either form -/

theorem readEntry_cases :
    (∀ d s, Extends false e p s (readEntry e p) (readEntry d (p ++ s))) ∨
    e ≠ .closed ∧ EndInComma p ∧ readEntry e p = .error (.malformed .trailingCharacters) ∧
      ∀ d s, readEntry d (p ++ s) = .error (.malformed (commaFlaw s)) := by
  unfold readEntry
  have h := fun d s => extends_next false e d p s .value
  cases hp : next e .value p with
  | error f =>
    rw [hp] at h
    refine .inl fun d s => ?_
    obtain hf | hmore := (h d s).of_error
    · exact .waits hf
    · rw [hmore]
      exact .fails f
  | ok r =>
    obtain ⟨b, q⟩ := r
    rw [hp] at h
    have hmore := fun d s => (h d s).of_ok.2
    have hq : q <:+ p := (h e []).of_ok.1
    simp only [hmore, append_pair]
    by_cases hbrace : b = octet '{'
    · simp only [if_pos hbrace]
      exact .inl fun d s => (extends_readMembers e d true .none q s).mono hq
    simp only [if_neg hbrace]
    by_cases hbracket : b = octet '['
    · simp only [if_pos hbracket]
      refine (readElements_cases e q).imp (fun h d s => (h d s).mono hq)
        fun ⟨he, entry, before, after, hvalues, hbefore, hafter, h⟩ => ⟨he, ?_, h⟩
      obtain ⟨-, sp, -, hsplit⟩ := next_eq_ok_iff.1 hp
      exact ⟨q, entry, before, after, ⟨sp, hbracket ▸ hsplit.symm⟩, hvalues, hbefore, hafter⟩
    · simp only [if_neg hbracket]
      exact .inl fun d s => (extends_wrongType false e d q s entryType b).mono hq

/-- An entry that is complete is read alike whatever follows. -/
theorem readEntry_append {t rest : List UInt8} {entry : Entry}
    (h : readEntry .closed t = .ok (entry, rest)) :
    readEntry e (t ++ s) = .ok (entry, rest ++ s) := by
  obtain hsame | ⟨hclosed, -⟩ := readEntry_cases .closed t
  · exact (h ▸ hsame e s).of_ok.2
  · exact absurd rfl hclosed

end BucketDigest.Wire
