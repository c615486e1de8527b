import BucketDigest.Scan.Call

/-!
# What a call can do

Everything that is said about runs comes from two lemmas on one step: `offer_cases`, what can come
of an offer, and `step_preserves`, what has to be shown for an invariant of the entries taken so far
and the scan. `run_preserves` carries such an invariant through a run.
-/
namespace BucketDigest

theorem taken_cons (x : Call × Answer) (record : List (Call × Answer)) :
    taken (x :: record) = taken [x] ++ taken record := by
  rw [← List.singleton_append]
  exact List.filterMap_append

namespace Scan

variable {s : Scan} {e : Entry}

/-! ## Offers -/

theorem offer_closed {digests : List Entry} (h : s.buckets = .closed digests) (e : Entry) :
    s.offer e = (s, .error .alreadyRead) := by
  unfold offer
  rw [run_take_closed h]

theorem offer_filling {hashes : SortedMap Attributes RunningHash}
    (h : s.buckets = .filling hashes) (e : Entry) :
    s.offer e =
      match s.checkOrder e with
      | .error error => (s, .error error)
      | .ok () =>
        match bucketOf s.aggregations e.attributes with
        | .error error => (s, .error error)
        | .ok key => (s.extend hashes key e, .ok ()) := by
  unfold offer
  rw [run_take_filling h]
  cases s.checkOrder e with
  | error error => rfl
  | ok u => cases bucketOf s.aggregations e.attributes <;> rfl

/-- All that can come of an offer: the scan is as it was and the entry refused, or the entry is in
its bucket. -/
theorem offer_cases (s : Scan) (e : Entry) :
    (∃ error, s.offer e = (s, .error error)) ∨
    ∃ hashes key, s.buckets = .filling hashes ∧ s.checkOrder e = .ok () ∧
      bucketOf s.aggregations e.attributes = .ok key ∧
      s.offer e = (s.extend hashes key e, .ok ()) := by
  cases hb : s.buckets with
  | closed digests => exact .inl ⟨.alreadyRead, offer_closed hb e⟩
  | filling hashes =>
    have hoffer := offer_filling hb e
    cases ho : s.checkOrder e with
    | error error => rw [ho] at hoffer; exact .inl ⟨error, hoffer⟩
    | ok u =>
      cases hk : bucketOf s.aggregations e.attributes with
      | error error => rw [ho, hk] at hoffer; exact .inl ⟨error, hoffer⟩
      | ok key => rw [ho, hk] at hoffer; exact .inr ⟨hashes, key, rfl, rfl, rfl, hoffer⟩

/-! ## Steps -/

/-- An invariant survives the offer of an entry if it survives that the entry is taken. -/
theorem step_add_preserves {P : List Entry → Scan → Prop} {history : List Entry}
    (h : P history s)
    (hextend : ∀ hashes key, s.buckets = .filling hashes → s.checkOrder e = .ok () →
      bucketOf s.aggregations e.attributes = .ok key →
      P (history ++ [e]) (s.extend hashes key e)) :
    P (history ++ taken [(.add e, (s.step (.add e)).2)]) (s.step (.add e)).1 := by
  rw [step_add]
  rcases offer_cases s e with ⟨error, he⟩ | ⟨hashes, key, hb, ho, hk, he⟩
  · rw [he]
    simpa [taken, Answer.isAcceptance] using h
  · rw [he]
    simpa [taken, Answer.isAcceptance, Call.offered?] using hextend hashes key hb ho hk

/-- What has to be shown for an invariant of the entries taken so far and the scan: it survives an
entry, another hash function, and the reading of the digests. -/
theorem step_preserves {P : List Entry → Scan → Prop} {history : List Entry} (h : P history s)
    (hextend : ∀ hashes key e, s.buckets = .filling hashes → s.checkOrder e = .ok () →
      bucketOf s.aggregations e.attributes = .ok key →
      P (history ++ [e]) (s.extend hashes key e))
    (halgorithm : ∀ algorithm, P history (s.withAlgorithm algorithm))
    (hsealed : P history s.sealed) (call : Call) :
    P (history ++ taken [(call, (s.step call).2)]) (s.step call).1 := by
  have hnone : ∀ answer : Answer, call.offered? = none → taken [(call, answer)] = [] := by
    intro answer hc
    simp [taken, hc]
  cases call with
  | add e => exact step_add_preserves h fun hashes key => hextend hashes key e
  | addEntity id attributes version =>
    exact step_add_preserves h fun hashes key => hextend hashes key (.entity id version attributes)
  | withAlgorithm algorithm => rw [hnone _ rfl, List.append_nil]; exact halgorithm algorithm
  | digests => rw [hnone _ rfl, List.append_nil]; exact hsealed
  | isSealed => rw [hnone _ rfl, List.append_nil]; exact h
  | bucketCount => rw [hnone _ rfl, List.append_nil]; exact h
  | entryCount => rw [hnone _ rfl, List.append_nil]; exact h

/-! ## Runs -/

/-- What every step keeps, a run keeps. -/
theorem run_preserves {P : List Entry → Scan → Prop} {calls : List Call}
    (hstep : ∀ history s, ∀ call ∈ calls, P history s →
      P (history ++ taken [(call, (s.step call).2)]) (s.step call).1) :
    ∀ {history : List Entry} {s : Scan}, P history s →
      P (history ++ taken (s.run calls).2) (s.run calls).1 := by
  induction calls with
  | nil => intro history s h; simpa [taken] using h
  | cons call calls ih =>
    intro history s h
    rw [run_cons, taken_cons, ← List.append_assoc]
    exact ih (fun history s c hc => hstep history s c (List.mem_cons_of_mem _ hc))
      (hstep history s call (List.mem_cons_self ..) h)

end Scan

end BucketDigest
