import Mathlib.Control.Monad.Basic
import Mathlib.Data.List.Basic
import BucketDigest.Proofs.Wire.Vetting

/-!
# Vetting afterwards

Entries are vetted as they are read, but it comes to the same as reading them all first, as far as
that goes, and vetting them one after the other then (`Reading.screened`): a refusal comes before
every fault of the document behind the entry, and no fault before it is missed.

Main statement: `vetting_can_wait`.
-/
namespace BucketDigest.Wire

open Json

variable {e : Ending} {v : Validator}

/-! ## Vetting one after the other -/

/-- Vets entries up to the first that is refused: those that are vetted, and the refusal. -/
def screen (v : Validator) : List Entry → List Entry × Option WireError
  | [] => ([], none)
  | x :: rest =>
    match v x with
    | .error error => ([x], some error)
    | .ok () => (x :: (screen v rest).1, (screen v rest).2)

theorem screen_of_accepted {entries : List Entry} (h : ∀ x ∈ entries, v x = .ok ()) :
    screen v entries = (entries, none) := by
  induction entries with
  | nil => rfl
  | cons x rest ih =>
    obtain ⟨hx, hrest⟩ := List.forall_mem_cons.1 h
    rw [screen, hx, ih hrest]

theorem screen_of_refusal {before after : List Entry} {x : Entry} {error : WireError}
    (h : ∀ y ∈ before, v y = .ok ()) (hx : v x = .error error) :
    screen v (before ++ x :: after) = (before ++ [x], some error) := by
  induction before with
  | nil => rw [List.nil_append, screen, hx]; rfl
  | cons y before ih =>
    obtain ⟨hy, hbefore⟩ := List.forall_mem_cons.1 h
    rw [List.cons_append, screen, hy, ih hbefore]
    rfl

/-- Only the entries that are vetted count. -/
theorem screen_congr {v' : Validator} {entries : List Entry}
    (h : ∀ x ∈ (screen v entries).1, v' x = v x) : screen v' entries = screen v entries := by
  induction entries with
  | nil => rfl
  | cons x rest ih =>
    rw [screen] at h ⊢
    rw [screen]
    cases hx : v x with
    | error error =>
      rw [hx] at h
      rw [h x (List.mem_singleton_self x), hx]
    | ok =>
      rw [hx] at h
      obtain ⟨hx', hrest⟩ := List.forall_mem_cons.1 h
      rw [hx', hx, ih hrest]

namespace Reading

/-- A reading whose entries are vetted when it is over. -/
def screened (v : Validator) (r : Reading) : Reading :=
  ⟨(screen v r.vetted).1,
    match (screen v r.vetted).2 with
    | none => r.outcome
    | some error => .error error⟩

theorem screened_of_accepted {r : Reading} (h : ∀ x ∈ r.vetted, v x = .ok ()) :
    r.screened v = r := by
  unfold screened
  rw [screen_of_accepted h]

theorem vetted_ended (e : Ending) (s : List UInt8) : (ended e s).vetted = [] := by
  unfold ended
  split <;> rfl

theorem screened_ended (e : Ending) (s : List UInt8) : (ended e s).screened v = ended e s :=
  screened_of_accepted (by simp [vetted_ended])

/-- One entry more comes first. -/
theorem screened_after (r : Reading) (x : Entry) :
    (r.after x).screened v =
      match v x with
      | .error error => refused x error
      | .ok () => (r.screened v).after x := by
  have hvetted : (r.after x).vetted = x :: r.vetted := rfl
  unfold screened
  rw [hvetted, screen]
  cases v x with
  | error error => rfl
  | ok =>
    dsimp only
    cases (screen v r.vetted).2 with
    | none => rfl
    | some error => rfl

end Reading

/-! ## Readers -/

theorem readItems_eq_screened (e : Ending) (v : Validator) (first : Bool) (s : List UInt8) :
    readItems e v first s = (readItems e .acceptAll first s).screened v := by
  fun_induction readItems e .acceptAll first s with
  | case1 first s f h =>
    rw [readItems_eq, h]
    rfl
  | case2 first s rest h =>
    rw [readItems_eq, h, Reading.screened_ended]
  | case3 first s rest h f hread =>
    rw [readItems_eq, h]
    dsimp only
    rw [hread]
    rfl
  | case4 first s rest h x t hread error haccepted => cases haccepted
  | case5 first s rest h x t hread haccepted ih =>
    rw [readItems_eq, h, Reading.screened_after, ← ih]
    cases hv : v x <;> simp only [hread, hv]

theorem readBareEntry_eq_screened (s : List UInt8) :
    readBareEntry e v s = (readBareEntry e .acceptAll s).screened v := by
  unfold readBareEntry
  cases readMembers e true .none s with
  | error f => rfl
  | ok r =>
    cases hv : v r.1 <;>
      simp only [Validator.acceptAll, Reading.screened_after, Reading.screened_ended, hv]

theorem readCollection_eq_screened (bare bare' : List UInt8 → Reading)
    (h : ∀ s, bare s = (bare' s).screened v) (s : List UInt8) :
    readCollection e v bare s = (readCollection e .acceptAll bare' s).screened v := by
  unfold readCollection
  cases next e .value s with
  | error f => rfl
  | ok r =>
    dsimp only
    split
    · exact readItems_eq_screened e v true _
    split
    · exact h _
    · rfl

/-! ## What a reading gives -/

/-- A reading that succeeds gives the entries that it has vetted. -/
def Reading.Complete (r : Reading) : Prop :=
  ∀ entries, r.outcome = .ok entries → entries = r.vetted

namespace Reading

theorem complete_failed (error : WireError) : (failed error).Complete := nofun

theorem complete_refused (x : Entry) (error : WireError) : (refused x error).Complete := nofun

theorem complete_ended (e : Ending) (s : List UInt8) : (ended e s).Complete := by
  intro entries h
  unfold ended at h ⊢
  split at h
  · cases h
  · cases h
    rfl

theorem Complete.after {r : Reading} (h : r.Complete) (x : Entry) : (r.after x).Complete := by
  intro entries hout
  unfold Reading.after at hout ⊢
  cases hr : r.outcome with
  | error error => rw [hr] at hout; cases hout
  | ok rest =>
    rw [hr] at hout
    cases hout
    rw [← h rest hr]

end Reading

theorem complete_readItems (first : Bool) (s : List UInt8) : (readItems e v first s).Complete := by
  fun_induction readItems e v first s with
  | case1 => exact Reading.complete_failed _
  | case2 => exact Reading.complete_ended _ _
  | case3 => exact Reading.complete_failed _
  | case4 => exact Reading.complete_refused _ _
  | case5 _ _ _ _ _ _ _ _ ih => exact ih.after _

theorem complete_readBareEntry (s : List UInt8) : (readBareEntry e v s).Complete := by
  unfold readBareEntry
  split
  · exact Reading.complete_failed _
  · split
    · exact Reading.complete_refused _ _
    · exact (Reading.complete_ended _ _).after _

theorem complete_readCollection {bare : List UInt8 → Reading} (h : ∀ s, (bare s).Complete)
    (s : List UInt8) : (readCollection e v bare s).Complete := by
  unfold readCollection
  split
  · exact Reading.complete_failed _
  split
  · exact complete_readItems true _
  split
  · exact h _
  · exact Reading.complete_failed _

/-- **Vetting afterwards.** Let either reader let every entry pass, and take the entries that it
completes before it is over, by the end of the document or by a fault. If a validator refuses one of
them, reading with that validator ends with the first refusal, as the validator words it. If it
refuses none, reading with it comes to the same, and if that succeeds, it gives these entries. The
validator is asked about these entries, in the order of the document, up to the first that it
refuses, and about nothing else. -/
theorem vetting_can_wait (v : Validator) :
    ∀ read ∈ [readQueryResult, readEntries], ∀ source,
      (∀ before x after error, (read .acceptAll source).vetted = before ++ x :: after →
        (∀ y ∈ before, v y = .ok ()) → v x = .error error →
        read v source = ⟨before ++ [x], .error error⟩) ∧
      ((∀ x ∈ (read .acceptAll source).vetted, v x = .ok ()) →
        read v source = read .acceptAll source) ∧
      (∀ entries, (read .acceptAll source).outcome = .ok entries →
        entries = (read .acceptAll source).vetted) ∧
      ∀ v' : Validator, (∀ x ∈ (read v source).vetted, v' x = v x) →
        read v' source = read v source := by
  intro read hread source
  have hscreened : ∀ v, read v source = (read .acceptAll source).screened v := by
    intro v
    rcases List.mem_pair.1 hread with rfl | rfl
    · exact readCollection_eq_screened _ (fun _ => .failed (.expectedArray .object))
        (fun _ => rfl) source.octets
    · exact readCollection_eq_screened _ _ readBareEntry_eq_screened source.octets
  have hcomplete : (read .acceptAll source).Complete := by
    rcases List.mem_pair.1 hread with rfl | rfl
    · exact complete_readCollection (fun _ => Reading.complete_failed _) source.octets
    · exact complete_readCollection complete_readBareEntry source.octets
  refine ⟨fun before x after error hsplit hbefore hx => ?_, fun h => ?_, hcomplete,
    fun v' h => ?_⟩
  · rw [hscreened v, Reading.screened, hsplit, screen_of_refusal hbefore hx]
  · rw [hscreened v, Reading.screened_of_accepted h]
  · rw [hscreened v] at h
    rw [hscreened v, hscreened v', Reading.screened, Reading.screened, screen_congr h]

/-- Three entries of which the second is refused, and a document that is cut off behind them. -/
theorem vetting_can_wait_for_second_of_three :
    let source : Source := ⟨Text.bytes ("[\x7b\"id\":\"a\",\"version\":\"1\"\x7d," ++
      "\x7b\"id\":\"\",\"version\":\"2\"\x7d,\x7b\"id\":\"b\",\"version\":\"3\"\x7d"), .closed⟩
    (readEntries .acceptAll source).vetted =
      [⟨some "a", "1", none, .empty⟩, ⟨some "", "2", none, .empty⟩,
        ⟨some "b", "3", none, .empty⟩] ∧
    (readEntries .acceptAll source).outcome = .error (.json (.cutOff .list)) ∧
    readEntries .cleanId source =
      ⟨[⟨some "a", "1", none, .empty⟩, ⟨some "", "2", none, .empty⟩],
        .error (.rejected (some "") "empty id")⟩ := by
  intro source
  have hvetted : (readEntries .acceptAll source).vetted =
      [⟨some "a", "1", none, .empty⟩, ⟨some "", "2", none, .empty⟩,
        ⟨some "b", "3", none, .empty⟩] := by decide +kernel
  refine ⟨hvetted, by decide +kernel, ?_⟩
  exact (vetting_can_wait .cleanId readEntries (by simp) source).1
    [⟨some "a", "1", none, .empty⟩] ⟨some "", "2", none, .empty⟩ [⟨some "b", "3", none, .empty⟩]
    (.rejected (some "") "empty id") hvetted (by decide +kernel) (by decide +kernel)

end BucketDigest.Wire
