import BucketDigest.Proofs.Scan.Run

/-!
# Refused entries leave no trace

An entry is refused at one of several depths of `Scan.take`, the last of them in the middle of
making the labels. `step_of_refusal` says that nothing has been changed at any of them. Main
statement: `refusals_leave_no_trace`, a run without its refused calls goes exactly as the whole run
does.
-/
namespace BucketDigest.Scan

/-- The entries of a record that are no refusals. -/
def withoutRefusals (record : List (Call × Answer)) : List (Call × Answer) :=
  record.filter fun x => !x.2.isRefusal

/-- A call that is answered by a refusal leaves the scan as it is. -/
theorem step_of_refusal {s : Scan} {call : Call} (h : (s.step call).2.isRefusal = true) :
    (s.step call).1 = s := by
  have hadd : ∀ e, (s.step (.add e)).2.isRefusal = true → (s.step (.add e)).1 = s := by
    intro e
    rw [step_add]
    rcases offer_cases s e with ⟨error, he⟩ | ⟨hashes, key, -, -, -, he⟩
    · rw [he]; exact fun _ => rfl
    · rw [he]; exact nofun
  cases call with
  | add e => exact hadd e h
  | addEntity id attributes version => exact hadd _ h
  | withAlgorithm algorithm => cases h
  | digests => cases h
  | isSealed => rfl
  | bucketCount => rfl
  | entryCount => rfl

/-- The two runs keep step: the shorter one stands still where the longer one meets a refusal. -/
theorem run_withoutRefusals (calls : List Call) : ∀ s : Scan,
    s.run ((withoutRefusals (s.run calls).2).map Prod.fst) =
      ((s.run calls).1, withoutRefusals (s.run calls).2) := by
  induction calls with
  | nil => intro s; rfl
  | cons call calls ih =>
    intro s
    rw [run_cons]
    unfold withoutRefusals
    cases hr : (s.step call).2.isRefusal with
    | true =>
      -- The call is left out of the shorter run, and both go on from the same scan.
      have hs := step_of_refusal hr
      rw [List.filter_cons_of_neg (by simp [hr]), hs]
      exact ih s
    | false =>
      rw [List.filter_cons_of_pos (by simp [hr]), List.map_cons, run_cons]
      have hrest := ih (s.step call).1
      unfold withoutRefusals at hrest
      rw [hrest]

/-- **No trace.** Without the calls that were refused, a run ends in the same scan and gives every
other call the same answer; a single refusal changes nothing at all. -/
theorem refusals_leave_no_trace (s : Scan) (calls : List Call) :
    s.run ((withoutRefusals (s.run calls).2).map Prod.fst) =
      ((s.run calls).1, withoutRefusals (s.run calls).2) ∧
    ∀ call, (s.step call).2.isRefusal = true → (s.step call).1 = s :=
  ⟨run_withoutRefusals calls s, fun _ h => step_of_refusal h⟩

/-- The first label is made before the second attribute is found to be missing. -/
theorem refusals_leave_no_trace_of_half_labelled :
    let s : Scan :=
      ⟨[⟨"kind", .byName, none⟩, ⟨"place", .byName, none⟩], .ascii, .md5, none, 0, .filling .empty⟩
    let call : Call := .add (.entity "1" "v1" (.ofList [("kind", "x")]))
    (s.step call).2.isRefusal = true ∧ (s.step call).1 = s := by
  intro s call
  have hrefusal : (s.step call).2.isRefusal = true := by decide
  exact ⟨hrefusal, (refusals_leave_no_trace s []).2 call hrefusal⟩

end BucketDigest.Scan
