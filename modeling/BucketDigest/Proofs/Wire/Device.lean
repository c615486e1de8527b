import BucketDigest.Proofs.Json.Device
import BucketDigest.Proofs.Wire.Deciding
import BucketDigest.Wire.Writing

/-!
# Failures of the device

Where a source or a sink fails, the failure is reported as a fault of the document, with the reason
of the device, and never as a failure of input or output. Apart from that the errors of a reading
say what they are about: a refusal of the entry that was vetted last, a document that is no list, or
a fault of the document.

* `honest_readEntry`: the device is only blamed where the source fails.
* `Reading.Explained`: what the error of a reading is due to.

Main statement: `device_failures_are_json_errors`.
-/
namespace BucketDigest.Wire

open Json

variable (e : Ending) (s : List UInt8)

/-! ## Entries -/

theorem honest_readTimestamp : Honest e (readTimestamp e s) := by
  unfold readTimestamp
  refine (honest_readOptionalText e s).step (fun _ h => .error h) fun ⟨text, s⟩ => ?_
  cases text with
  | none => exact .ok _
  | some text =>
    dsimp only
    split
    · exact .unfit _
    · exact .ok _

theorem honest_readMemberText : Honest e (readMemberText e s) := by
  unfold readMemberText
  exact (honest_skipColon e s).step (fun _ h => .error h) fun s => honest_readText e s

theorem honest_readPairs (first : Bool) (attributes : Attributes) :
    Honest e (readPairs e first attributes s) := by
  fun_induction readPairs e first attributes s with
  | case1 _ _ _ f h => exact .error (honest_nextKey e _ _ f h)
  | case2 => exact .ok _
  | case3 _ _ _ _ _ _ f h => exact .error (honest_readMemberText e _ f h)
  | case4 _ _ _ _ _ _ _ _ _ ih => exact ih

theorem honest_readAttributes : Honest e (readAttributes e s) := by
  unfold readAttributes
  refine (honest_next e s _).step (fun _ h => .error h) fun ⟨b, s⟩ => ?_
  dsimp only
  split
  · exact honest_readPairs e s true .empty
  · exact honest_wrongType e s _ b

theorem honest_entry (m : Members) : Honest e m.entry := by
  unfold Members.entry
  split
  · exact .unfit _
  · exact .ok _

theorem honest_read (m : Members) (key : String) : Honest e (m.read e key s) := by
  unfold Members.read
  split
  · exact (honest_readOnce e s (honest_readOptionalText e)).map _
  split
  · exact (honest_readOnce e s (honest_readText e)).map _
  split
  · exact (honest_readOnce e s (honest_readTimestamp e)).map _
  split
  · exact (honest_readOnce e s (honest_readAttributes e)).map _
  · exact (honest_skipColon e s).step (fun _ h => .error h) fun s => (honest_skipValue e s).map _

theorem honest_readMembers (first : Bool) (m : Members) : Honest e (readMembers e first m s) := by
  fun_induction readMembers e first m s with
  | case1 _ _ _ f h => exact .error (honest_nextKey e _ _ f h)
  | case2 _ m => exact (honest_entry e m).map _
  | case3 _ _ _ _ _ _ f h => exact .error (honest_read e _ _ _ f h)
  | case4 _ _ _ _ _ _ _ _ _ ih => exact ih

theorem honest_readElements : Honest e (readElements e s) := by
  unfold readElements
  refine (honest_nextElement e s true).bind fun ⟨more, s⟩ => ?_
  cases more with
  | false => exact .unfit _
  | true =>
    refine (honest_readOptionalText e s).bind fun ⟨id, s⟩ => ?_
    refine (honest_nextElement e s false).bind fun ⟨more, s⟩ => ?_
    cases more with
    | false => exact .unfit _
    | true =>
      refine (honest_readText e s).bind fun ⟨version, s⟩ => ?_
      refine (honest_nextElement e s false).bind fun ⟨more, s⟩ => ?_
      cases more with
      | false => exact .ok _
      | true =>
        refine (honest_readTimestamp e s).bind fun ⟨lastUpdated, s⟩ => ?_
        refine (honest_nextElement e s false).bind fun ⟨more, s⟩ => ?_
        cases more with
        | false => exact .ok _
        | true =>
          refine (honest_readAttributes e s).bind fun ⟨attributes, s⟩ => ?_
          exact (honest_endList e s).bind fun s => .ok _

theorem honest_readEntry : Honest e (readEntry e s) := by
  unfold readEntry
  refine (honest_next e s _).step (fun _ h => .error h) fun ⟨b, s⟩ => ?_
  dsimp only
  split
  · exact honest_readMembers e s true .none
  split
  · exact honest_readElements e s
  · exact honest_wrongType e s entryType b

/-! ## What errors are due to -/

/-- What the error of a reading is due to. -/
inductive Cause (e : Ending) (v : Validator) (vetted : List Entry) : WireError → Prop
  /-- The entry that was vetted last is refused. -/
  | refusal {x : Entry} {error : WireError} (hlast : vetted.getLast? = some x)
    (hv : v x = .error error) : Cause e v vetted error
  /-- The document is no list. -/
  | shape (found : Shape) : Cause e v vetted (.expectedArray found)
  /-- The document is at fault, or the device if the source fails. -/
  | document {f : Fault} (h : e.Owns f) : Cause e v vetted (.json f)

/-- An error of a reading is due to something. -/
def Reading.Explained (e : Ending) (v : Validator) (r : Reading) : Prop :=
  ∀ error, r.outcome = .error error → Cause e v r.vetted error

namespace Reading.Explained

variable {e} {v : Validator}

theorem failed {f : Fault} (h : e.Owns f) : Explained e v (.failed (.json f)) := by
  rintro _ ⟨⟩
  exact .document h

theorem refused {x : Entry} {error : WireError} (h : v x = .error error) :
    Explained e v (.refused x error) := by
  rintro _ ⟨⟩
  exact .refusal rfl h

theorem ended : Explained e v (.ended e s) := by
  unfold Reading.ended
  refine (honest_finish e s).step (fun _ h => failed h) fun _ => ?_
  exact nofun

/-- One entry more has been vetted. -/
theorem after {r : Reading} (h : Explained e v r) (x : Entry) : Explained e v (r.after x) := by
  intro error herror
  unfold Reading.after at herror
  cases hout : r.outcome with
  | ok entries => rw [hout] at herror; cases herror
  | error error' =>
    rw [hout] at herror
    cases herror
    cases h _ hout with
    | @refusal y _ hlast hv =>
      refine .refusal (x := y) ?_ hv
      show (x :: r.vetted).getLast? = some y
      rw [List.getLast?_cons, hlast]
      rfl
    | shape found => exact .shape found
    | document h => exact .document h

end Reading.Explained

open Reading (Explained)

variable (v : Validator)

theorem explained_readItems (first : Bool) : Explained e v (readItems e v first s) := by
  fun_induction readItems e v first s with
  | case1 _ _ f h => exact .failed (honest_nextElement e _ _ f h)
  | case2 _ _ rest => exact .ended rest
  | case3 _ _ _ _ f h => exact .failed (honest_readEntry e _ f h)
  | case4 _ _ _ _ _ _ _ _ hv => exact .refused hv
  | case5 _ _ _ _ x _ _ _ ih => exact ih.after x

theorem explained_readBareEntry : Explained e v (readBareEntry e v s) := by
  unfold readBareEntry
  refine (honest_readMembers e s true .none).step (fun _ h => .failed h) fun ⟨x, s⟩ => ?_
  dsimp only
  split
  · next hv => exact .refused hv
  · exact (Explained.ended s).after x

theorem explained_notCollection (b : UInt8) :
    Explained e v (.failed (notCollection e b s)) := by
  unfold notCollection
  refine (honest_readFound e s b).step (fun _ h => .failed h) fun ⟨found, s⟩ => ?_
  rintro _ ⟨⟩
  exact .shape _

theorem explained_readCollection {bare : List UInt8 → Reading}
    (h : ∀ s, Explained e v (bare s)) : Explained e v (readCollection e v bare s) := by
  unfold readCollection
  refine (honest_next e s _).step (fun _ h => .failed h) fun ⟨b, s⟩ => ?_
  dsimp only
  split
  · exact explained_readItems e s v true
  split
  · exact h s
  · exact explained_notCollection e s v b

theorem explained_readQueryResult (source : Source) :
    Explained source.ending v (readQueryResult v source) := by
  refine explained_readCollection _ _ v fun _ => ?_
  rintro _ ⟨⟩
  exact .shape .object

theorem explained_readEntries (source : Source) :
    Explained source.ending v (readEntries v source) :=
  explained_readCollection _ _ v fun s => explained_readBareEntry _ s v

/-! ## Failures -/

/-- Octets decide an error if the reading fails with it whichever way the source ends. -/
def DecidesError (read : Source → Reading) (p : List UInt8) : Prop :=
  ∃ error, ∀ e, (read ⟨p, e⟩).outcome = .error error

/-- Two ways to end that tell. -/
theorem not_decidesError {read : Source → Reading} {p : List UInt8} (d e : Ending)
    (h : (read ⟨p, d⟩).outcome ≠ (read ⟨p, e⟩).outcome) : ¬DecidesError read p := by
  rintro ⟨error, herror⟩
  exact h ((herror d).trans (herror e).symm)

variable {v}

/-- What octets have decided does not depend on how the source ends. -/
theorem Decided.decidesError {read : Source → Reading} {p : List UInt8} {reason : String}
    (h : Decided reason p (read ⟨p, .failing reason⟩) fun s e => read ⟨p ++ s, e⟩)
    (hne : (read ⟨p, .failing reason⟩).outcome ≠ .error (.json (.device reason))) :
    DecidesError read p := by
  cases h with
  | waits h => exact absurd h hne
  | @same error h hmore =>
    refine ⟨error, fun e => ?_⟩
    have hsame := hmore [] e
    rw [List.append_nil] at hsame
    rw [hsame, h]
  | comma _ _ hmore =>
    refine ⟨.json (.malformed (commaFlaw [])), fun e => ?_⟩
    have hsame := hmore [] e
    rw [List.append_nil] at hsame
    rw [hsame]

/-- A sink with room for some octets fails if there are more. -/
theorem outcome_deliver_limited (entries : List Entry) (capacity : Nat) (reason : String) :
    (deliver (.limited capacity reason) entries).outcome =
      if (Text.bytes (queryResult entries)).length ≤ capacity then .ok ()
      else .error (.json (.device reason)) := by
  unfold deliver Sink.failure?
  by_cases hfits : (Text.bytes (queryResult entries)).length ≤ capacity
  · simp only [if_pos hfits]
  · simp only [if_neg hfits]

/-- **Failures of the device.** Where octets do not decide an error themselves and the source fails
behind them, the error is a JSON error with the reason of the source; and so is that of writing to a
sink which does not take all octets. Any other error of a reading is the refusal of the entry that
was vetted last, or says that the document is no list, or is a fault of the document. -/
theorem device_failures_are_json_errors (v : Validator) :
    (∀ read ∈ [readQueryResult v, readEntries v],
      (∀ p, ¬DecidesError read p ↔
        ∀ reason, (read ⟨p, .failing reason⟩).outcome = .error (.json (.device reason))) ∧
      ∀ source error, (read source).outcome = .error error →
        Cause source.ending v (read source).vetted error) ∧
    ∀ entries capacity reason,
      (deliver (.limited capacity reason) entries).outcome =
        if (Text.bytes (queryResult entries)).length ≤ capacity then .ok ()
        else .error (.json (.device reason)) := by
  refine ⟨fun read hread => ⟨fun p => ⟨fun hundecided reason => ?_, fun hfails => ?_⟩, ?_⟩, ?_⟩
  · have hdecided : Decided reason p (read ⟨p, .failing reason⟩) fun s e => read ⟨p ++ s, e⟩ := by
      rcases List.mem_pair.1 hread with rfl | rfl
      · exact decided_readQueryResult
      · exact decided_readEntries
    exact Classical.not_not.1 fun hne => hundecided (hdecided.decidesError hne)
  · -- The reason of the source tells.
    refine not_decidesError (.failing "a") (.failing "b") ?_
    rw [hfails, hfails]
    decide
  · intro source
    rcases List.mem_pair.1 hread with rfl | rfl
    · exact explained_readQueryResult v source
    · exact explained_readEntries v source
  · exact outcome_deliver_limited

/-- A source that fails behind an opening bracket, an entry without a proper id, and a sink that
takes one octet. -/
theorem device_failures_are_json_errors_of_both_sides :
    let p := Text.bytes "["
    let q := Text.bytes "[\x7b\"id\":\"\",\"version\":\"v\"\x7d"
    (readEntries .cleanId ⟨p, .failing "read failed"⟩).outcome =
      .error (.json (.device "read failed")) ∧
    Cause (.failing "read failed") .cleanId
      (readEntries .cleanId ⟨q, .failing "read failed"⟩).vetted (.rejected (some "") "empty id") ∧
    (deliver (.limited 1 "write failed") []).outcome = .error (.json (.device "write failed")) := by
  intro p q
  obtain ⟨hread, hwrite⟩ := device_failures_are_json_errors .cleanId
  obtain ⟨hfails, hcause⟩ := hread (readEntries .cleanId) (by simp)
  have hundecided : ¬DecidesError (readEntries .cleanId) p :=
    not_decidesError .closed (.failing "read failed") (by decide +kernel)
  refine ⟨(hfails p).1 hundecided _, hcause ⟨q, .failing "read failed"⟩ _ (by decide +kernel), ?_⟩
  · exact (hwrite [] 1 "write failed").trans (if_neg (by decide +kernel))

/-- A failure that ends the reading behind an opening bracket is no error of input or output. -/
theorem failing_source_is_no_io_error :
    ¬ ∀ (v : Validator) p reason, ¬DecidesError (readQueryResult v) p →
      (readQueryResult v ⟨p, .failing reason⟩).outcome = .error (.io reason) := by
  intro h
  have hundecided : ¬DecidesError (readQueryResult .acceptAll) (Text.bytes "[") :=
    not_decidesError .closed (.failing "read failed") (by decide +kernel)
  have hfailing : (readQueryResult .acceptAll ⟨Text.bytes "[", .failing "read failed"⟩).outcome =
      .error (.json (.device "read failed")) := by decide +kernel
  have hio := h .acceptAll (Text.bytes "[") "read failed" hundecided
  rw [hfailing] at hio
  cases hio

end BucketDigest.Wire
