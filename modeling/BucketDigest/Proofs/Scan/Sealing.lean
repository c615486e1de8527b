import BucketDigest.Proofs.SortedMap
import BucketDigest.Proofs.Scan.Run

/-!
# Scans whose digests have been read

Reading the digests closes the buckets. Main statement: `sealed_scan_is_frozen`, from then on every
call has the answer that `answerOnceRead` fixes at the moment of the first reading, whatever comes
between.

* `Frozen`: what such a scan has in common with the scan as it was just before.
* `reachable_ascending`: digests are listed in strictly ascending order of their labels, so that no
  two of them have the same.
-/
namespace BucketDigest

/-- In strictly ascending order of the labels. -/
def Ascending (digests : List Entry) : Prop :=
  digests.Pairwise fun d d' => compare d.attributes d'.attributes = .lt

theorem Ascending.eq_of_attributes {digests : List Entry} (h : Ascending digests) {d d' : Entry}
    (hd : d ∈ digests) (hd' : d' ∈ digests) (he : d.attributes = d'.attributes) : d = d' := by
  induction digests with
  | nil => cases hd
  | cons x rest ih =>
    obtain ⟨hlt, hrest⟩ := List.pairwise_cons.1 h
    rcases List.mem_cons.1 hd with rfl | hr <;> rcases List.mem_cons.1 hd' with rfl | hr'
    · rfl
    · exact absurd he (SortedMap.ne_of_compare_lt (hlt d' hr'))
    · exact absurd he.symm (SortedMap.ne_of_compare_lt (hlt d hr))
    · exact ih hrest hr hr'

namespace SealedDigests

/-- A look-up finds what the list holds. -/
theorem get?_eq_some_iff {d : SealedDigests} (h : Ascending d.entries) {labels : Attributes}
    {version : String} :
    d.get? labels = some version ↔
      ∃ e ∈ d.entries, e.attributes = labels ∧ e.version = version := by
  unfold get?
  rw [Option.map_eq_some_iff]
  constructor
  · intro hex
    obtain ⟨e, hfind, hv⟩ := hex
    exact ⟨e, List.mem_of_find?_eq_some hfind, by simpa using List.find?_some hfind, hv⟩
  · intro hex
    obtain ⟨e, hmem, he, hv⟩ := hex
    cases hfind : d.entries.find? fun e => e.attributes = labels with
    | none => exact absurd he (by simpa using List.find?_eq_none.1 hfind e hmem)
    | some x =>
      have hx : x.attributes = labels := by simpa using List.find?_some hfind
      have hxe := h.eq_of_attributes (List.mem_of_find?_eq_some hfind) hmem (hx.trans he.symm)
      exact ⟨x, rfl, hxe ▸ hv⟩

end SealedDigests

namespace Scan

/-! ## The order of the digests -/

theorem ascending_of_filling {s : Scan} {hashes : SortedMap Attributes RunningHash}
    (h : s.buckets = .filling hashes) : Ascending s.digests := by
  unfold digests Ascending
  rw [h]
  exact List.pairwise_map.2 hashes.ascending

/-- No call that is made on the way disturbs the order of the digests. -/
theorem reachable_ascending {s : Scan} (h : s.Reachable) : Ascending s.digests := by
  induction h with
  | @start aggregations collation s h =>
    unfold start at h
    split at h
    · cases h
    · cases h; exact .nil
  | @step s _ call ih =>
    exact @step_preserves s (fun _ s => Ascending s.digests) [] ih
      (fun _ _ _ _ _ _ => ascending_of_filling rfl) (fun _ => ih) ih call

/-! ## After the first reading -/

/-- The answer to a call once the digests of `s` have been read. -/
def answerOnceRead (s : Scan) : Call → Answer
  | .add _ => .outcome (.error .alreadyRead)
  | .addEntity .. => .outcome (.error .alreadyRead)
  | .withAlgorithm _ => .done
  | .digests => .digests s.digests
  | .isSealed => .flag true
  | .bucketCount => .count s.bucketCount
  | .entryCount => .count s.entryCount

/-- What a scan that has been read keeps of the scan just before the reading. -/
structure Frozen (before s : Scan) : Prop where
  buckets : s.buckets = .closed before.digests
  entryCount : s.entryCount = before.entryCount

theorem frozen_sealed (s : Scan) : Frozen s s.sealed := ⟨rfl, rfl⟩

theorem length_digests (s : Scan) : s.digests.length = s.bucketCount := by
  unfold digests bucketCount
  cases s.buckets with
  | filling hashes => exact List.length_map ..
  | closed digests => rfl

/-- A call on a scan that has been read leaves it so, and its answer is fixed. -/
theorem frozen_step {before s : Scan} (h : Frozen before s) (call : Call) :
    Frozen before (s.step call).1 ∧ (s.step call).2 = before.answerOnceRead call := by
  have hdigests : s.digests = before.digests := by rw [digests, h.buckets]
  have hadd : ∀ e, s.step (.add e) = (s, .outcome (.error .alreadyRead)) := by
    intro e
    rw [step_add, offer_closed h.buckets]
  cases call with
  | add e => rw [hadd]; exact ⟨h, rfl⟩
  | addEntity id attributes version => rw [step_addEntity, hadd]; exact ⟨h, rfl⟩
  | withAlgorithm algorithm => exact ⟨⟨h.buckets, h.entryCount⟩, rfl⟩
  | digests =>
    refine ⟨⟨?_, h.entryCount⟩, congrArg Answer.digests hdigests⟩
    exact congrArg Buckets.closed hdigests
  | isSealed => refine ⟨h, congrArg Answer.flag ?_⟩; unfold isSealed; rw [h.buckets]
  | bucketCount =>
    refine ⟨h, congrArg Answer.count ?_⟩
    rw [← length_digests, hdigests, length_digests]
  | entryCount => exact ⟨h, congrArg Answer.count h.entryCount⟩

theorem frozen_run {before : Scan} (calls : List Call) : ∀ {s : Scan}, Frozen before s →
    Frozen before (s.run calls).1 ∧
      (s.run calls).2 = calls.map fun call => (call, before.answerOnceRead call) := by
  induction calls with
  | nil => intro s h; exact ⟨h, rfl⟩
  | cons call calls ih =>
    intro s h
    obtain ⟨hstep, hanswer⟩ := frozen_step h call
    obtain ⟨hrun, hrecord⟩ := ih hstep
    rw [run_cons, hanswer, hrecord]
    exact ⟨hrun, rfl⟩

/-- **Sealing.** Once the digests of a reachable scan have been read, every entry is refused as
coming too late, every reading gives the same list, and the counts stand still, in whatever order
calls are made; and the scan ends as that list, in which a look-up finds exactly what the list
holds. -/
theorem sealed_scan_is_frozen {s : Scan} (hs : s.Reachable) (calls : List Call) :
    (s.run (.digests :: calls)).2 =
      (.digests, .digests s.digests) :: calls.map (fun call => (call, s.answerOnceRead call)) ∧
    (SealedDigests.ofScan (s.run (.digests :: calls)).1).entries = s.digests ∧
    ∀ labels version,
      (SealedDigests.ofScan (s.run (.digests :: calls)).1).get? labels = some version ↔
        ∃ d ∈ s.digests, d.attributes = labels ∧ d.version = version := by
  obtain ⟨hfrozen, hrecord⟩ := frozen_run calls (frozen_sealed s)
  have hentries : (SealedDigests.ofScan (s.run (.digests :: calls)).1).entries = s.digests := by
    rw [run_cons]
    show digests (s.sealed.run calls).1 = s.digests
    unfold digests
    rw [hfrozen.buckets]
    rfl
  refine ⟨?_, hentries, fun labels version => ?_⟩
  · rw [run_cons]
    exact congrArg _ hrecord
  · rw [SealedDigests.get?_eq_some_iff (by rw [hentries]; exact reachable_ascending hs), hentries]

/-- A scan with one entry is read, and refuses an entry that sorts too low and lacks its label. -/
theorem sealed_scan_is_frozen_after_one_entry :
    let s₀ : Scan := ⟨[⟨"kind", .byName, none⟩], .ascii, .md5, none, 0, .filling .empty⟩
    let s := (s₀.step (.add (.entity "2" "v2" (.ofList [("kind", "x")])))).1
    let late : Call := .add (.entity "1" "v1" .empty)
    s.Reachable ∧
      (s.run [.digests, late, .entryCount]).2 =
        [(.digests, .digests s.digests), (late, .outcome (.error .alreadyRead)),
          (.entryCount, .count 1)] := by
  intro s₀ s late
  have hs₀ : start [⟨"kind", .byName, none⟩] .ascii = .ok s₀ := rfl
  have hs : s.Reachable := .step (.start hs₀) _
  exact ⟨hs, (sealed_scan_is_frozen hs [late, .entryCount]).1⟩

end Scan

end BucketDigest
