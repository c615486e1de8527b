import Mathlib.Data.List.Forall2
import Mathlib.Data.List.Nodup
import BucketDigest.Proofs.Scan.BucketKey
import BucketDigest.Proofs.Scan.History

/-!
# The order of the aggregations

Labels go into a bucket one after the other, but every label is made from the attributes as they
came, and no two aggregations govern the same attribute. So their order can be seen in one place
only: where several of them refuse an entry, the first is blamed.

* `bucketOf_perm` and `exists_blames_of_bucketOf_perm` are about one entry.
* `step_reordered` and `run_reordered` go through two scans side by side, of which one is the other
  with its aggregations in another order.
* `order_of_aggregations_is_irrelevant` starts both of them.
-/
namespace BucketDigest

/-! ## Buckets -/

section
variable {as bs : List Aggregation} {attributes key : Attributes}

theorem IsBucket.perm (h : IsBucket as attributes key) (hperm : as.Perm bs) :
    IsBucket bs attributes key := by
  refine ⟨fun b hb => h.labelled b (hperm.mem_iff.2 hb), fun attr hattr => ?_⟩
  exact h.kept attr fun a ha => hattr a (hperm.mem_iff.1 ha)

theorem bucketOf_perm (hattrs : (as.map Aggregation.attr).Nodup) (hperm : as.Perm bs)
    (h : bucketOf as attributes = .ok key) : bucketOf bs attributes = .ok key := by
  have hattrs' : (bs.map Aggregation.attr).Nodup := (hperm.map _).nodup_iff.1 hattrs
  rw [bucketOf_eq_ok_iff hattrs] at h
  rw [bucketOf_eq_ok_iff hattrs']
  exact h.perm hperm

theorem Aggregation.Refuses.unique {a : Aggregation} {error error' : ScanError}
    (h : a.Refuses attributes error) (h' : a.Refuses attributes error') : error = error' := by
  rw [← Aggregation.labelOf_eq_error_iff] at h h'
  exact Except.error.inj (h.symm.trans h')

/-- Some attributes are refused for two reasons, which aggregations of different attributes have. -/
def BothRefuse (as : List Aggregation) (attributes : Attributes) (error error' : ScanError) :
    Prop :=
  ∃ a ∈ as, ∃ b ∈ as, a.attr ≠ b.attr ∧ a.Refuses attributes error ∧ b.Refuses attributes error'

/-- In another order, attributes that have no bucket have none either, for the same reason or for
another one. -/
theorem exists_blames_of_bucketOf_perm (hattrs : (as.map Aggregation.attr).Nodup)
    (hperm : as.Perm bs) {error : ScanError} (h : bucketOf as attributes = .error error) :
    ∃ error', bucketOf bs attributes = .error error' ∧
      (error = error' ∨ BothRefuse as attributes error error') := by
  have hattrs' : (bs.map Aggregation.attr).Nodup := (hperm.map _).nodup_iff.1 hattrs
  cases h' : bucketOf bs attributes with
  | ok key =>
    rw [bucketOf_perm hattrs' hperm.symm h'] at h
    cases h
  | error error' =>
    obtain ⟨before, a, after, rfl, -, ha⟩ := bucketOf_eq_error_iff.1 h
    obtain ⟨before', b, after', rfl, -, hb⟩ := bucketOf_eq_error_iff.1 h'
    have hamem : a ∈ before ++ a :: after := by simp
    have hbmem : b ∈ before ++ a :: after := hperm.mem_iff.2 (by simp)
    refine ⟨error', rfl, ?_⟩
    by_cases hattr : a.attr = b.attr
    · obtain rfl := List.inj_on_of_nodup_map hattrs hamem hbmem hattr
      exact .inl (ha.unique hb)
    · exact .inr ⟨a, hamem, b, hbmem, hattr, ha, hb⟩

/-- Two attributes are missing, and the one that is labelled first is blamed. -/
example :
    let kind : Aggregation := ⟨"kind", .byName, none⟩
    let place : Aggregation := ⟨"place", .textPrefix ⟨[1], by decide, by decide⟩, none⟩
    bucketOf [kind, place] .empty = .error (.missingAttribute "kind") ∧
      bucketOf [place, kind] .empty = .error (.missingAttribute "place") := ⟨rfl, rfl⟩

end

/-! ## Answers -/

/-- Two answers to a call, which differ at most in the attribute that is blamed for a refusal, where
several are to blame. Each answer gives the reason that belongs to the attribute it blames. -/
inductive Answer.Alike (as : List Aggregation) (call : Call) : Answer → Answer → Prop
  | same (answer : Answer) : Alike as call answer answer
  | blame {e : Entry} {error error' : ScanError} (hoffered : call.offered? = some e)
      (h : BothRefuse as e.attributes error error') :
      Alike as call (.outcome (.error error)) (.outcome (.error error'))

namespace Answer

variable {as : List Aggregation} {call : Call} {answer answer' : Answer}

theorem Alike.isAcceptance_eq (h : Alike as call answer answer') :
    answer.isAcceptance = answer'.isAcceptance := by
  cases h <;> rfl

/-- No aggregation refuses an entry for its place in the order. -/
theorem Alike.outOfOrder_iff (h : Alike as call answer answer') (previous current : String) :
    answer = .outcome (.error (.outOfOrder previous current)) ↔
      answer' = .outcome (.error (.outOfOrder previous current)) := by
  cases h with
  | same => rfl
  | blame _ h =>
    obtain ⟨a, -, b, -, -, ha, hb⟩ := h
    constructor
    · intro heq
      cases heq
      cases ha
    · intro heq
      cases heq
      cases hb

end Answer

namespace Scan

variable {s : Scan} {bs : List Aggregation}

/-- The scan with its aggregations in another order. -/
def reordered (s : Scan) (bs : List Aggregation) : Scan := { s with aggregations := bs }

/-! ## Steps -/

theorem offer_reordered (hattrs : (s.aggregations.map Aggregation.attr).Nodup)
    (hperm : s.aggregations.Perm bs) (e : Entry) :
    ((s.reordered bs).offer e).1 = (s.offer e).1.reordered bs ∧
      (((s.reordered bs).offer e).2 = (s.offer e).2 ∨
        ∃ error error', (s.offer e).2 = .error error ∧
          ((s.reordered bs).offer e).2 = .error error' ∧
          BothRefuse s.aggregations e.attributes error error') := by
  cases hb : s.buckets with
  | closed digests =>
    have hb' : (s.reordered bs).buckets = .closed digests := hb
    rw [offer_closed hb, offer_closed hb']
    exact ⟨rfl, .inl rfl⟩
  | filling hashes =>
    have hb' : (s.reordered bs).buckets = .filling hashes := hb
    have horder : (s.reordered bs).checkOrder e = s.checkOrder e := rfl
    have haggregations : (s.reordered bs).aggregations = bs := rfl
    rw [offer_filling hb, offer_filling hb', horder, haggregations]
    cases s.checkOrder e with
    | error error => exact ⟨rfl, .inl rfl⟩
    | ok u =>
      cases hkey : bucketOf s.aggregations e.attributes with
      | ok key =>
        rw [bucketOf_perm hattrs hperm hkey]
        exact ⟨rfl, .inl rfl⟩
      | error error =>
        obtain ⟨error', hkey', rfl | hboth⟩ := exists_blames_of_bucketOf_perm hattrs hperm hkey
        · rw [hkey']
          exact ⟨rfl, .inl rfl⟩
        · rw [hkey']
          exact ⟨rfl, .inr ⟨error, error', rfl, rfl, hboth⟩⟩

theorem step_reordered (hattrs : (s.aggregations.map Aggregation.attr).Nodup)
    (hperm : s.aggregations.Perm bs) (call : Call) :
    ((s.reordered bs).step call).1 = (s.step call).1.reordered bs ∧
      Answer.Alike s.aggregations call (s.step call).2 ((s.reordered bs).step call).2 := by
  have hadd : ∀ e, call.offered? = some e →
      ((s.reordered bs).step (.add e)).1 = (s.step (.add e)).1.reordered bs ∧
        Answer.Alike s.aggregations call (s.step (.add e)).2
          ((s.reordered bs).step (.add e)).2 := by
    intro e hoffered
    obtain ⟨hscan, hanswer⟩ := offer_reordered hattrs hperm e
    rw [step_add, step_add]
    refine ⟨hscan, ?_⟩
    rcases hanswer with hsame | ⟨error, error', herror, herror', hboth⟩
    · rw [hsame]
      exact .same _
    · rw [herror, herror']
      exact .blame hoffered hboth
  cases call with
  | add e => exact hadd e rfl
  | addEntity id attributes version => exact hadd _ rfl
  | withAlgorithm algorithm => exact ⟨rfl, .same _⟩
  | digests => exact ⟨rfl, .same _⟩
  | isSealed => exact ⟨rfl, .same _⟩
  | bucketCount => exact ⟨rfl, .same _⟩
  | entryCount => exact ⟨rfl, .same _⟩

theorem aggregations_step (s : Scan) (call : Call) :
    (s.step call).1.aggregations = s.aggregations :=
  @step_preserves s (fun _ s' => s'.aggregations = s.aggregations) [] rfl
    (fun _ _ _ _ _ _ => rfl) (fun _ => rfl) rfl call

/-! ## Runs -/

theorem run_reordered (hattrs : (s.aggregations.map Aggregation.attr).Nodup)
    (hperm : s.aggregations.Perm bs) (calls : List Call) :
    ((s.reordered bs).run calls).1 = (s.run calls).1.reordered bs ∧
      List.Forall₂ (fun x y => x.1 = y.1 ∧ Answer.Alike s.aggregations x.1 x.2 y.2)
        (s.run calls).2 ((s.reordered bs).run calls).2 := by
  induction calls generalizing s with
  | nil => exact ⟨rfl, .nil⟩
  | cons call calls ih =>
    obtain ⟨hscan, hanswer⟩ := step_reordered hattrs hperm call
    have hkept := aggregations_step s call
    obtain ⟨hrest, hrecord⟩ := ih (s := (s.step call).1) (hkept.symm ▸ hattrs) (hkept.symm ▸ hperm)
    rw [run_cons, run_cons, hscan]
    rw [hkept] at hrecord
    exact ⟨hrest, .cons ⟨rfl, hanswer⟩ hrecord⟩

/-- **The order of the aggregations is irrelevant.** Where no attribute has two aggregations, a scan
can be started with them in any order, and all that is asked of it has the same answers: the same
entries are taken, the same are out of order, and the digests are the same. Only where an entry is
refused for several of its attributes, one or another of them is blamed. -/
theorem order_of_aggregations_is_irrelevant {as bs : List Aggregation}
    (hattrs : (as.map Aggregation.attr).Nodup) (hperm : as.Perm bs) (collation : Collation)
    (calls : List Call) :
    ∃ s t, start as collation = .ok s ∧ start bs collation = .ok t ∧
      List.Forall₂ (fun x y => x.1 = y.1 ∧ Answer.Alike as x.1 x.2 y.2 ∧
          x.2.isAcceptance = y.2.isAcceptance ∧
          ∀ previous current, x.2 = .outcome (.error (.outOfOrder previous current)) ↔
            y.2 = .outcome (.error (.outOfOrder previous current)))
        (s.run calls).2 (t.run calls).2 ∧
      (s.run calls).1.digests = (t.run calls).1.digests := by
  have hattrs' : (bs.map Aggregation.attr).Nodup := (hperm.map _).nodup_iff.1 hattrs
  refine ⟨_, _, start_of_nodup hattrs collation, start_of_nodup hattrs' collation, ?_⟩
  obtain ⟨hscan, hrecord⟩ := run_reordered
    (s := ⟨as, collation, .md5, none, 0, .filling .empty⟩) hattrs hperm calls
  refine ⟨hrecord.imp fun x y hxy => ?_, ?_⟩
  · obtain ⟨hcall, halike⟩ := hxy
    exact ⟨hcall, halike, halike.isAcceptance_eq, halike.outOfOrder_iff⟩
  · exact (congrArg digests hscan).symm

/-- The first entry is refused for both of its attributes, the third one for its place in the
order. -/
theorem order_of_aggregations_is_irrelevant_with_two_to_blame :
    let as : List Aggregation := [⟨"day", .date .daily, none⟩, ⟨"kind", .byName, none⟩]
    let bs : List Aggregation := [⟨"kind", .byName, none⟩, ⟨"day", .date .daily, none⟩]
    let calls : List Call :=
      [.add (.entity "1" "v1" (.ofList [("day", "soon")])), .withAlgorithm .blake3,
        .add (.entity "3" "v3" (.ofList [("day", "2009-06-15"), ("kind", "x")])),
        .add (.entity "2" "v2" (.ofList [("day", "2009-06-15"), ("kind", "x")])), .digests]
    ((as.map Aggregation.attr).Nodup ∧ as.Perm bs) ∧
    ∃ s t, start as .ascii = .ok s ∧ start bs .ascii = .ok t ∧
      List.Forall₂ (fun x y => x.1 = y.1 ∧ Answer.Alike as x.1 x.2 y.2 ∧
          x.2.isAcceptance = y.2.isAcceptance ∧
          ∀ previous current, x.2 = .outcome (.error (.outOfOrder previous current)) ↔
            y.2 = .outcome (.error (.outOfOrder previous current)))
        (s.run calls).2 (t.run calls).2 ∧
      (s.run calls).1.digests = (t.run calls).1.digests := by
  intro as bs calls
  have hattrs : (as.map Aggregation.attr).Nodup := by decide
  have hperm : as.Perm bs := by decide
  exact ⟨⟨hattrs, hperm⟩, order_of_aggregations_is_irrelevant hattrs hperm .ascii calls⟩

end Scan

end BucketDigest
