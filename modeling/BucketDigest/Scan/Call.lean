import BucketDigest.Scan

/-!
# Calls

A scan as a machine that answers one call after the other, from its start to the end.

* `Scan.step` answers a call, and `Scan.run` some calls in turn; the record of a run holds each call
  with its answer.
* `Scan.Reachable` holds of the scans that calls lead to from a start.
* `taken` lists the entries that a record shows to have been taken, in order of arrival.
-/
namespace BucketDigest

/-- What can be asked of a scan. -/
inductive Call
  | add (e : Entry)
  | addEntity (id : String) (attributes : Attributes) (version : String)
  | withAlgorithm (algorithm : Algorithm)
  | digests
  | isSealed
  | bucketCount
  | entryCount
  deriving DecidableEq

/-- What a scan answers. -/
inductive Answer
  | outcome (result : Except ScanError Unit)
  | done
  | digests (list : List Entry)
  | flag (value : Bool)
  | count (number : Nat)

/-- The entry that a call offers. -/
def Call.offered? : Call → Option Entry
  | .add e => some e
  | .addEntity id attributes version => some (.entity id version attributes)
  | _ => none

/-- Whether an answer is a refusal. -/
def Answer.isRefusal : Answer → Bool
  | .outcome (.error _) => true
  | _ => false

/-- Whether an answer says that an entry was taken. -/
def Answer.isAcceptance : Answer → Bool
  | .outcome (.ok ()) => true
  | _ => false

/-- The entries that a record shows to have been taken. -/
def taken (record : List (Call × Answer)) : List Entry :=
  record.filterMap fun x => if x.2.isAcceptance then x.1.offered? else none

namespace Scan

/-- Offers an entry and answers whether it was taken. -/
def answerOffer (s : Scan) (e : Entry) : Scan × Answer :=
  let (s, result) := s.offer e
  (s, .outcome result)

/-- The scan after a call, and its answer. -/
def step (s : Scan) : Call → Scan × Answer
  | .add e => s.answerOffer e
  | .addEntity id attributes version => s.answerOffer (.entity id version attributes)
  | .withAlgorithm algorithm => (s.withAlgorithm algorithm, .done)
  | .digests => (s.sealed, .digests s.digests)
  | .isSealed => (s, .flag s.isSealed)
  | .bucketCount => (s, .count s.bucketCount)
  | .entryCount => (s, .count s.entryCount)

/-- The scan after some calls, and the record of them. -/
def run (s : Scan) : List Call → Scan × List (Call × Answer)
  | [] => (s, [])
  | call :: calls =>
    let (s, answer) := s.step call
    let (s, record) := run s calls
    (s, (call, answer) :: record)

/-- The scans that calls lead to from a start. -/
inductive Reachable : Scan → Prop
  | start {aggregations : List Aggregation} {collation : Collation} {s : Scan}
      (h : start aggregations collation = .ok s) : Reachable s
  | step {s : Scan} (h : Reachable s) (call : Call) : Reachable (s.step call).1

@[simp] theorem run_nil (s : Scan) : s.run [] = (s, []) := rfl

theorem run_cons (s : Scan) (call : Call) (calls : List Call) :
    s.run (call :: calls) =
      (((s.step call).1.run calls).1,
        (call, (s.step call).2) :: ((s.step call).1.run calls).2) := rfl

theorem step_add (s : Scan) (e : Entry) :
    s.step (.add e) = ((s.offer e).1, .outcome (s.offer e).2) := rfl

theorem step_addEntity (s : Scan) (id : String) (attributes : Attributes) (version : String) :
    s.step (.addEntity id attributes version) = s.step (.add (.entity id version attributes)) := rfl

end Scan

end BucketDigest
