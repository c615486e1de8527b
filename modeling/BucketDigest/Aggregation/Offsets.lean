import BucketDigest.SetupError

/-!
# Offsets of prefixes

A prefix aggregation cuts values to the length that its first offset gives. The offsets behind it
are the lengths of the finer tiers.

* `Offsets.ofList` accepts a list exactly if it is not empty and ascends from above zero.
* `Offsets.refine?` passes to the next tier, and `Offsets.tiers` lists all.
-/
namespace BucketDigest

/-- The first offset that is not above the one before it; `previous` stands before the first. -/
def firstOffence? (previous : UInt64) : List UInt64 → Option UInt64
  | [] => none
  | offset :: rest => if offset ≤ previous then some offset else firstOffence? offset rest

theorem pairwise_of_firstOffence? {previous : UInt64} {l : List UInt64}
    (h : firstOffence? previous l = none) : (previous :: l).Pairwise (· < ·) := by
  induction l generalizing previous with
  | nil => simp
  | cons offset rest ih =>
    simp only [firstOffence?] at h
    split at h
    · exact absurd h (by simp)
    · next hlt =>
      have hlt : previous < offset := UInt64.not_le.1 hlt
      have hrest := ih h
      refine List.pairwise_cons.2 ⟨fun o ho => ?_, hrest⟩
      rcases List.mem_cons.1 ho with rfl | ho
      · exact hlt
      · exact UInt64.lt_trans hlt ((List.pairwise_cons.1 hrest).1 o ho)

/-- The lengths of the tiers of a prefix aggregation, coarsest first. -/
@[ext]
structure Offsets where
  toList : List UInt64
  nonempty : toList ≠ []
  ascending : (0 :: toList).Pairwise (· < ·)
  deriving DecidableEq

namespace Offsets

/-- The offsets of a list, or what is wrong with it. -/
def ofList (l : List UInt64) : Except SetupError Offsets :=
  if hl : l = [] then .error .noOffsets
  else
    match h : firstOffence? 0 l with
    | some offset => .error (.invalidOffset offset)
    | none => .ok ⟨l, hl, pairwise_of_firstOffence? h⟩

/-- The length to which values are cut. -/
def prefixLength (o : Offsets) : UInt64 := o.toList.head o.nonempty

/-- The offsets of the next tier, if there is one. -/
def refine? (o : Offsets) : Option Offsets :=
  if h : o.toList.tail = [] then none
  else some ⟨o.toList.tail, h, o.ascending.sublist (.cons_cons 0 (List.tail_sublist o.toList))⟩

theorem toList_of_refine? {o o' : Offsets} (h : o.refine? = some o') :
    o'.toList = o.toList.tail := by
  unfold refine? at h
  split at h
  · simp at h
  · simp only [Option.some.injEq] at h
    exact h ▸ rfl

/-- The offsets of this tier and of every finer one. -/
def tiers (o : Offsets) : List Offsets :=
  match _h : o.refine? with
  | none => [o]
  | some o' => o :: o'.tiers
termination_by o.toList.length
decreasing_by
  have := List.length_pos_iff.2 o.nonempty
  rw [toList_of_refine? _h, List.length_tail]
  omega

end Offsets

end BucketDigest
