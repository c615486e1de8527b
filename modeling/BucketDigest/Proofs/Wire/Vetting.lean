import BucketDigest.Wire.Reading

/-!
# Entries that have been vetted

A reading that succeeds has vetted every entry that it gives, and refused none of them.

* `outcome_after_eq_ok_iff`: what a reading gives with one entry more.
* `accepted_of_readEntries`: the validator lets every entry pass that is given.
* `cleanId_eq_ok_iff`: the entries that pass the check of ids.
-/
namespace BucketDigest.Wire

open Json

variable {e : Ending} {v : Validator}

/-- The validator lets every entry pass that a reading gives. -/
def Reading.Accepted (v : Validator) (r : Reading) : Prop :=
  ∀ entries, r.outcome = .ok entries → ∀ entry ∈ entries, v entry = .ok ()

namespace Reading

theorem accepted_failed (error : WireError) : Accepted v (failed error) := nofun

theorem accepted_refused (entry : Entry) (error : WireError) :
    Accepted v (refused entry error) := nofun

theorem accepted_ended (e : Ending) (s : List UInt8) : Accepted v (ended e s) := by
  intro entries h
  unfold ended at h
  split at h
  · cases h
  · cases h
    exact nofun

theorem Accepted.after {r : Reading} {entry : Entry} (h : r.Accepted v) (hv : v entry = .ok ()) :
    (r.after entry).Accepted v := by
  intro entries hout
  unfold Reading.after at hout
  cases hr : r.outcome with
  | error error => rw [hr] at hout; cases hout
  | ok rest =>
    rw [hr] at hout
    cases hout
    exact List.forall_mem_cons.2 ⟨hv, h rest hr⟩

end Reading

theorem accepted_readItems (first : Bool) (s : List UInt8) :
    (readItems e v first s).Accepted v := by
  fun_induction readItems e v first s with
  | case1 => exact Reading.accepted_failed _
  | case2 => exact Reading.accepted_ended _ _
  | case3 => exact Reading.accepted_failed _
  | case4 => exact Reading.accepted_refused _ _
  | case5 _ _ _ _ _ _ _ hv ih => exact ih.after hv

theorem accepted_readBareEntry (s : List UInt8) : (readBareEntry e v s).Accepted v := by
  unfold readBareEntry
  split
  · exact Reading.accepted_failed _
  · split
    · exact Reading.accepted_refused _ _
    · next hv => exact (Reading.accepted_ended _ _).after hv

/-- **Vetting.** Every entry of a collection that is read has been accepted. -/
theorem accepted_readEntries (v : Validator) (source : Source) :
    (readEntries v source).Accepted v := by
  unfold readEntries readCollection
  split
  · exact Reading.accepted_failed _
  · split
    · exact accepted_readItems _ _
    · split
      · exact accepted_readBareEntry _
      · exact Reading.accepted_failed _

theorem idFlaw?_eq_none_iff (id : String) :
    idFlaw? id = none ↔ id ≠ "" ∧ ∀ c ∈ id.toList, isControl c = false := by
  unfold idFlaw?
  by_cases hempty : id = ""
  · simp [hempty]
  · rw [if_neg hempty]
    cases hcontrol : id.toList.any isControl <;> simp_all

/-- Entries pass without an id, and with an id that is not empty and holds no control character. -/
theorem cleanId_eq_ok_iff (entry : Entry) :
    Validator.cleanId entry = .ok () ↔
      ∀ id, entry.id = some id → id ≠ "" ∧ ∀ c ∈ id.toList, isControl c = false := by
  unfold Validator.cleanId
  cases entry.id with
  | none => simp
  | some id =>
    simp only [Option.bind_some, Option.some.injEq, forall_eq', ← idFlaw?_eq_none_iff]
    cases idFlaw? id <;> simp

end BucketDigest.Wire
