import Mathlib.Control.Monad.Basic
import Mathlib.Data.List.Forall2
import BucketDigest.Proofs.Wire.Extension
import BucketDigest.Proofs.Wire.Vetting

/-!
# Readings that octets decide

A source that fails behind some octets is noticed only if the outcome depends on what comes next.
Otherwise the reading is over and has failed, and anything else that follows makes no difference
either. The one exception is a comma after the fourth value of an entry (`EndInComma`): the entry is
over, but the octet behind the comma tells how its fault is worded.

* `Decided`: octets and the readings of all that continues them.
* `decided_readItems`, `decided_readCollection`: lists, and either reader.

Main statement: `reading_is_decided_by_octets`.
-/
namespace BucketDigest.Wire

open Json

variable {reason : String} {p q : List UInt8} {v : Validator}

/-- What is read of octets `p` from a source that fails behind them, and what is read of them when
`s` follows and the source ends in `e`. -/
inductive Decided (reason : String) (p : List UInt8) (r : Reading)
    (more : List UInt8 → Ending → Reading) : Prop
  /-- What follows is asked for. -/
  | waits (h : r.outcome = .error (.json (.device reason)))
  /-- What follows is not looked at. -/
  | same {error : WireError} (h : r.outcome = .error error) (hmore : ∀ s e, more s e = r)
  /-- What follows is looked at, if it is there. -/
  | comma (hp : EndInComma p) (h : r.outcome = .error (.json (.malformed .trailingCharacters)))
      (hmore : ∀ s e, more s e = ⟨r.vetted, .error (.json (.malformed (commaFlaw s)))⟩)

namespace Decided

variable {r : Reading} {more more' : List UInt8 → Ending → Reading}

theorem mono (h : Decided reason q r more) (hq : q <:+ p) (heq : ∀ s e, more' s e = more s e) :
    Decided reason p r more' := by
  cases h with
  | waits h => exact .waits h
  | same h hmore => exact .same h fun s e => (heq s e).trans (hmore s e)
  | comma hp h hmore => exact .comma (hp.mono hq) h fun s e => (heq s e).trans (hmore s e)

/-- One entry more has been vetted. -/
theorem after (h : Decided reason p r more) (x : Entry) :
    Decided reason p (r.after x) fun s e => (more s e).after x := by
  have hafter {error : WireError} (h : r.outcome = .error error) :
      (r.after x).outcome = .error error := by
    unfold Reading.after
    rw [h]
    rfl
  cases h with
  | waits h => exact .waits (hafter h)
  | same h hmore => exact .same (hafter h) fun s e => by rw [hmore]
  | comma hp h hmore => exact .comma hp (hafter h) fun s e => by rw [hmore]; rfl

/-- A reader has failed. -/
theorem fault {ρ : Type} [Remainder ρ] {f : Fault} {y : Ending → List UInt8 → Except Fault ρ}
    (h : ∀ d s, Extends false (.failing reason) p s (.error f) (y d s))
    (hmore : ∀ s e, y e s = .error f → more s e = .failed (.json f)) :
    Decided reason p (.failed (.json f)) more := by
  by_cases hf : (Ending.failing reason).Blames f
  · rw [hf reason rfl]
    exact .waits rfl
  · exact .same rfl fun s e => hmore s e ((h e s).of_error.resolve_left hf)

end Decided

/-! ## Readers -/

theorem decided_ended :
    Decided reason p (.ended (.failing reason) p) fun s e => .ended e (p ++ s) := by
  unfold Reading.ended finish
  cases hp : skipSpace p with
  | nil => exact .waits rfl
  | cons b q =>
    refine .same rfl fun s e => ?_
    rw [skipSpace_append (by simp [hp]), hp]
    rfl

theorem decided_readItems (reason : String) (v : Validator) (first : Bool) (p : List UInt8) :
    Decided reason p (readItems (.failing reason) v first p)
      fun s e => readItems e v first (p ++ s) := by
  have hnext := fun d s => extends_nextElement false (.failing reason) d p s first
  rw [readItems_eq]
  cases hx : nextElement (.failing reason) first p with
  | error f =>
    rw [hx] at hnext
    exact .fault hnext fun s e h => by rw [readItems_eq, h]
  | ok r =>
    obtain ⟨more, q⟩ := r
    rw [hx] at hnext
    have hmore := fun d s => (hnext d s).of_ok.2
    have hq : q <:+ p := (hnext .closed []).of_ok.1
    cases more with
    | false => exact decided_ended.mono hq fun s e => readItems_of_end (hmore e s)
    | true =>
      dsimp only
      obtain hentry | ⟨-, hcomma, hentry, hentries⟩ := readEntry_cases (.failing reason) q
      · cases hx' : readEntry (.failing reason) q with
        | error f =>
          rw [hx'] at hentry
          refine .mono (.fault hentry fun s e h => ?_) hq fun s e => readItems_of_more (hmore e s)
          rw [h]
        | ok r =>
          obtain ⟨x, t⟩ := r
          rw [hx'] at hentry
          have hentries := fun d s => (hentry d s).of_ok.2
          have ht : t <:+ q := (hentry .closed []).of_ok.1
          dsimp only
          cases hv : v x with
          | error error =>
            exact .same rfl fun s e => readItems_of_refused (hmore e s) (hentries e s) hv
          | ok =>
            have := length_nextElement_le hx
            have := length_readEntry_lt hx'
            exact ((decided_readItems reason v false t).after x).mono (ht.trans hq) fun s e =>
              readItems_of_entry (hmore e s) (hentries e s) hv
      · rw [hentry]
        refine .comma (hcomma.mono hq) rfl fun s e => ?_
        rw [readItems_of_more (hmore e s), hentries]
        rfl
termination_by p.length

theorem decided_readBareEntry :
    Decided reason p (readBareEntry (.failing reason) v p)
      fun s e => readBareEntry e v (p ++ s) := by
  have h := fun d s => extends_readMembers (.failing reason) d true .none p s
  unfold readBareEntry
  cases hx : readMembers (.failing reason) true .none p with
  | error f =>
    rw [hx] at h
    exact .fault h fun s e h => by rw [h]
  | ok r =>
    obtain ⟨x, q⟩ := r
    rw [hx] at h
    have hmore := fun d s => (h d s).of_ok.2
    have hq : q <:+ p := (h .closed []).of_ok.1
    simp only [hmore, append_pair]
    cases v x with
    | error error => exact .same rfl fun _ _ => rfl
    | ok => exact (decided_ended.after x).mono hq fun _ _ => rfl

theorem decided_notCollection (b : UInt8) :
    Decided reason (b :: p) (.failed (notCollection (.failing reason) b p))
      fun s e => .failed (notCollection e b (p ++ s)) := by
  have h := fun d s => extends_readFound d reason p s b
  unfold notCollection
  cases hx : readFound (.failing reason) b p with
  | error f =>
    rw [hx] at h
    exact .fault h fun s e h => by rw [h]
  | ok r =>
    obtain ⟨found, q⟩ := r
    rw [hx] at h
    exact .same rfl fun s e => by rw [(h e s).of_ok.2]; rfl

theorem decided_readCollection (bare : Ending → List UInt8 → Reading)
    (hbare : ∀ q, Decided reason q (bare (.failing reason) q) fun s e => bare e (q ++ s)) :
    Decided reason p (readCollection (.failing reason) v (bare (.failing reason)) p)
      fun s e => readCollection e v (bare e) (p ++ s) := by
  have h := fun d s => extends_next false (.failing reason) d p s .value
  unfold readCollection
  cases hx : next (.failing reason) .value p with
  | error f =>
    rw [hx] at h
    exact .fault h fun s e h => by rw [h]
  | ok r =>
    obtain ⟨b, q⟩ := r
    rw [hx] at h
    have hmore := fun d s => (h d s).of_ok.2
    obtain ⟨-, sp, -, hsplit⟩ := next_eq_ok_iff.1 hx
    have hb : b :: q <:+ p := ⟨sp, hsplit.symm⟩
    have hq := (List.suffix_cons b q).trans hb
    simp only [hmore, append_pair]
    by_cases hbracket : b = octet '['
    · simp only [if_pos hbracket]
      exact (decided_readItems reason v true q).mono hq fun _ _ => rfl
    simp only [if_neg hbracket]
    by_cases hbrace : b = octet '\x7b'
    · simp only [if_pos hbrace]
      exact (hbare q).mono hq fun _ _ => rfl
    · simp only [if_neg hbrace]
      exact (decided_notCollection b).mono hb fun _ _ => rfl

theorem decided_readQueryResult :
    Decided reason p (readQueryResult v ⟨p, .failing reason⟩)
      fun s e => readQueryResult v ⟨p ++ s, e⟩ :=
  decided_readCollection (fun _ _ => .failed (.expectedArray .object))
    fun _ => .same rfl fun _ _ => rfl

theorem decided_readEntries :
    Decided reason p (readEntries v ⟨p, .failing reason⟩)
      fun s e => readEntries v ⟨p ++ s, e⟩ :=
  decided_readCollection (fun e => readBareEntry e v) fun _ => decided_readBareEntry

/-! ## Refusals -/

/-- Octets are one entry with only white space around it. -/
def IsEntry (t : List UInt8) (x : Entry) : Prop :=
  ∃ sp, AllSpace sp ∧ readEntry .closed t = .ok (x, sp)

/-- Octets open a list and hold entries up to the end of the last one. -/
def Opens (p : List UInt8) (entries : List Entry) : Prop :=
  ∃ sp texts, AllSpace sp ∧ List.Forall₂ IsEntry texts entries ∧
    p = sp ++ octet '[' :: [octet ','].intercalate texts

variable {e : Ending} {t : List UInt8} {x : Entry}

theorem IsEntry.next_append (h : IsEntry t x) (place : Place) (s : List UInt8) :
    ∃ b q, next e place (t ++ s) = .ok (b, q) ∧ b ≠ octet ']' := by
  obtain ⟨sp, -, hread⟩ := h
  unfold readEntry at hread
  cases hx : next .closed .value t with
  | error f => rw [hx] at hread; cases hread
  | ok r =>
    obtain ⟨b, q⟩ := r
    rw [hx] at hread
    obtain ⟨hb, sp, hsp, rfl⟩ := next_eq_ok_iff.1 hx
    refine ⟨b, q ++ s, ?_, ?_⟩
    · rw [List.append_assoc, List.cons_append, Json.next_append hsp hb]
    · rintro rfl
      dsimp only at hread
      rw [if_neg (by decide), if_neg (by decide)] at hread
      cases hread

theorem IsEntry.nextElement_first (h : IsEntry t x) (s : List UInt8) :
    nextElement e true (t ++ s) = .ok (true, t ++ s) := by
  obtain ⟨b, q, hnext, hb⟩ := h.next_append (e := e) .list s
  unfold nextElement
  rw [hnext]
  dsimp only
  rw [if_neg hb]
  rfl

theorem IsEntry.nextElement_later (h : IsEntry t x) {sp : List UInt8} (hsp : AllSpace sp)
    (s : List UInt8) :
    nextElement e false (sp ++ octet ',' :: (t ++ s)) = .ok (true, t ++ s) := by
  obtain ⟨b, q, hnext, hb⟩ := h.next_append (e := e) .value s
  unfold nextElement
  rw [Json.next_append hsp rfl]
  dsimp only
  rw [hnext]
  dsimp only
  rw [if_neg hb]
  rfl

/-- Several entries start with an entry. -/
theorem exists_isEntry_of_forall₂ {texts : List (List UInt8)} {entries : List Entry}
    (h : List.Forall₂ IsEntry texts entries) (hne : entries ≠ []) (s : List UInt8) :
    ∃ t y u, IsEntry t y ∧ [octet ','].intercalate texts ++ s = t ++ u := by
  cases h with
  | nil => exact absurd rfl hne
  | cons ht htexts =>
    cases htexts with
    | nil =>
      rw [List.intercalate_singleton]
      exact ⟨_, _, s, ht, rfl⟩
    | cons =>
      rw [List.intercalate_cons_cons, List.append_assoc, List.append_assoc]
      exact ⟨_, _, _, ht, rfl⟩

/-- Entries that are let pass, and one that is refused. -/
theorem readItems_of_refusal {entries : List Entry} {error : WireError}
    (haccepted : ∀ y ∈ entries, v y = .ok ()) (hx : v x = .error error) (s : List UInt8)
    {texts : List (List UInt8)} (htexts : List.Forall₂ IsEntry texts (entries ++ [x]))
    {first : Bool} {u : List UInt8}
    (hu : nextElement e first u = .ok (true, [octet ','].intercalate texts ++ s)) :
    readItems e v first u = ⟨entries ++ [x], .error error⟩ := by
  induction entries generalizing texts first u with
  | nil =>
    obtain _ | ⟨⟨sp, -, ht⟩, hnil⟩ := htexts
    cases hnil
    rw [List.intercalate_singleton] at hu
    exact readItems_of_refused hu (readEntry_append e s ht) hx
  | cons y entries ih =>
    obtain ⟨hy, hys⟩ := List.forall_mem_cons.1 haccepted
    rw [List.cons_append] at htexts
    cases htexts with
    | @cons t _ texts _ ht htexts =>
      obtain ⟨sp, hsp, ht⟩ := ht
      have hne : entries ++ [x] ≠ [] := by simp
      -- Behind the comma stands the next entry.
      obtain ⟨t', y', w, ht', hw⟩ := exists_isEntry_of_forall₂ htexts hne s
      have hlater : nextElement e false (sp ++ octet ',' :: ([octet ','].intercalate texts ++ s)) =
          .ok (true, [octet ','].intercalate texts ++ s) := by
        rw [hw, ht'.nextElement_later hsp]
      have hsplit : [octet ','].intercalate (t :: texts) ++ s =
          t ++ octet ',' :: ([octet ','].intercalate texts ++ s) := by
        obtain ⟨t'', texts', rfl⟩ : ∃ t'' texts', texts = t'' :: texts' := by
          cases texts with
          | nil => simp at htexts
          | cons t'' texts' => exact ⟨t'', texts', rfl⟩
        rw [List.intercalate_cons_cons, List.append_assoc, List.append_assoc]
        rfl
      rw [hsplit] at hu
      rw [readItems_of_entry hu (readEntry_append e _ ht) hy, ih hys htexts hlater]
      rfl

/-- **Deciding octets.** If a source fails behind some octets and the outcome of either reader is
not that failure, it is an error, and it is the same error whatever else follows. There is one
exception: where the octets end, white space aside, in a comma after the fourth value of an entry,
what follows decides between two errors. Where the octets open a list and hold entries that are let
pass and then one that is refused, that refusal is the outcome, whatever else follows. -/
theorem reading_is_decided_by_octets (v : Validator) :
    ∀ read ∈ [readQueryResult v, readEntries v],
      (∀ p reason,
        (read ⟨p, .failing reason⟩).outcome ≠ .error (.json (.device reason)) →
          ∃ error, (read ⟨p, .failing reason⟩).outcome = .error error ∧
            ((∀ s e, read ⟨p ++ s, e⟩ = read ⟨p, .failing reason⟩) ∨
              EndInComma p ∧ error = .json (.malformed .trailingCharacters) ∧
                ∀ s e, read ⟨p ++ s, e⟩ = ⟨(read ⟨p, .failing reason⟩).vetted,
                  .error (.json (.malformed (commaFlaw s)))⟩)) ∧
      ∀ p entries x error,
        Opens p (entries ++ [x]) → (∀ y ∈ entries, v y = .ok ()) → v x = .error error →
          ∀ s e, read ⟨p ++ s, e⟩ = ⟨entries ++ [x], .error error⟩ := by
  intro read hread
  have hdecided : ∀ p reason,
      Decided reason p (read ⟨p, .failing reason⟩) fun s e => read ⟨p ++ s, e⟩ := by
    rcases List.mem_pair.1 hread with rfl | rfl
    · exact fun _ _ => decided_readQueryResult
    · exact fun _ _ => decided_readEntries
  have hlist : ∀ {sp q e}, AllSpace sp → read ⟨sp ++ octet '[' :: q, e⟩ = readItems e v true q := by
    intro sp q e hsp
    rcases List.mem_pair.1 hread with rfl | rfl
    · unfold readQueryResult readCollection
      rw [Json.next_append hsp rfl]
      rfl
    · unfold readEntries readCollection
      rw [Json.next_append hsp rfl]
      rfl
  constructor
  · intro p reason hne
    cases hdecided p reason with
    | waits h => exact absurd h hne
    | same h hmore => exact ⟨_, h, .inl hmore⟩
    | comma hp h hmore => exact ⟨_, h, .inr ⟨hp, rfl, hmore⟩⟩
  · rintro p entries x error ⟨sp, texts, hsp, htexts, rfl⟩ haccepted hx s e
    rw [List.append_assoc, List.cons_append, hlist hsp]
    obtain ⟨t, y, u, ht, hu⟩ := exists_isEntry_of_forall₂ htexts (by simp) s
    refine readItems_of_refusal haccepted hx s htexts ?_
    rw [hu, ht.nextElement_first]

/-- An entry without a version, and one with an empty id. -/
theorem reading_is_decided_by_octets_of_second_entries :
    let p := Text.bytes "[\x7b\"version\":\"v\"\x7d,\x7b\x7d"
    let q := Text.bytes "[\x7b\"version\":\"v\"\x7d,\x7b\"id\":\"\",\"version\":\"v\"\x7d"
    (∀ s e, (readEntries .cleanId ⟨p ++ s, e⟩).outcome =
      .error (.json (.unfit (.missingField "version")))) ∧
    ∀ s e, readQueryResult .cleanId ⟨q ++ s, e⟩ =
      ⟨[⟨none, "v", none, .empty⟩, ⟨some "", "v", none, .empty⟩],
        .error (.rejected (some "") "empty id")⟩ := by
  intro p q
  constructor
  · have hp : (readEntries .cleanId ⟨p, .failing "read failed"⟩).outcome =
        .error (.json (.unfit (.missingField "version"))) := by decide +kernel
    obtain ⟨error, herror, hmore⟩ :=
      (reading_is_decided_by_octets .cleanId (readEntries .cleanId) (by simp)).1 p "read failed"
        (by rw [hp]; decide)
    rw [hp] at herror
    cases herror
    rcases hmore with hmore | ⟨-, herror, -⟩
    · intro s e
      rw [hmore, hp]
    · cases herror
  · have htexts : List.Forall₂ IsEntry
        [Text.bytes "\x7b\"version\":\"v\"\x7d", Text.bytes "\x7b\"id\":\"\",\"version\":\"v\"\x7d"]
        [⟨none, "v", none, .empty⟩, ⟨some "", "v", none, .empty⟩] :=
      .cons ⟨[], nofun, by decide +kernel⟩ (.cons ⟨[], nofun, by decide +kernel⟩ .nil)
    exact (reading_is_decided_by_octets .cleanId (readQueryResult .cleanId) (by simp)).2 q
      [⟨none, "v", none, .empty⟩] ⟨some "", "v", none, .empty⟩ _
      ⟨[], _, nofun, htexts, by decide +kernel⟩ (by decide +kernel) (by decide +kernel)

/-- A comma after the fourth value of an entry is a fault in itself, but a bracket behind it changes
which one. -/
theorem bracket_behind_comma_is_looked_at :
    let p := Text.bytes "[[\"a\",\"v\",null,\x7b\x7d,"
    ¬ ((readQueryResult .acceptAll ⟨p, .failing "read failed"⟩).outcome ≠
        .error (.json (.device "read failed")) →
      ∃ error, (readQueryResult .acceptAll ⟨p, .failing "read failed"⟩).outcome = .error error ∧
        ∀ s, (readQueryResult .acceptAll ⟨p ++ s, .closed⟩).outcome = .error error) := by
  intro p h
  have hp : (readQueryResult .acceptAll ⟨p, .failing "read failed"⟩).outcome =
      .error (.json (.malformed .trailingCharacters)) := by decide +kernel
  have hbracket : (readQueryResult .acceptAll ⟨p ++ [octet ']'], .closed⟩).outcome =
      .error (.json (.malformed .trailingComma)) := by decide +kernel
  obtain ⟨error, herror, hmore⟩ := h (by rw [hp]; decide)
  rw [hp] at herror
  cases herror
  have hsame := hmore [octet ']']
  rw [hbracket] at hsame
  cases hsame

end BucketDigest.Wire
