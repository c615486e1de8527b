import BucketDigest.Collation
import BucketDigest.Collation.Weights

/-!
# The collations are total preorders

Of any two ids one may follow the other, and what may follow an id may follow everything that the
id may follow. Octet order is such an order. Of a collator it has to be assumed
(`Collator.IsTotalPreorder`); comparison by weights shows that the assumption can be met.
-/
namespace BucketDigest

instance Collation.transCmp_ascii : Std.TransCmp Collation.ascii.compare :=
  inferInstanceAs (Std.TransCmp (compareOn Text.bytes))

/-- Comparison level by level of weights. -/
instance Collation.transCmp_byWeights : Std.TransCmp Collation.byWeights :=
  inferInstanceAs (Std.TransCmp (compareLex
    (compareLex (compareOn fun s => (Collation.key s).letters)
      (compareOn fun s => (Collation.key s).marks))
    (compareOn fun s => (Collation.key s).cases)))

/-- If the collator has an order, it is one in which ids can be sorted. -/
def Collator.IsTotalPreorder (collator : Collator) : Prop :=
  ∀ compare, collator = .ok compare → Std.TransCmp compare

theorem Collator.IsTotalPreorder.ok {compare : String → String → Ordering}
    (h : Std.TransCmp compare) : Collator.IsTotalPreorder (.ok compare) := by
  intro compare' heq
  cases heq
  exact h

theorem CollationKind.transCmp_of_build {kind : CollationKind} {collator : Collator}
    {collation : Collation} (hcollator : kind = .unicode → collator.IsTotalPreorder)
    (h : kind.build collator = .ok collation) : Std.TransCmp collation.compare := by
  cases kind with
  | ascii => cases h; exact Collation.transCmp_ascii
  | unicode =>
    cases collator with
    | error reason => cases h
    | ok compare => cases h; exact hcollator rfl compare rfl

namespace Collation

theorem inOrder_iff (c : Collation) (previous next : String) :
    c.inOrder previous next = true ↔ c.compare previous next ≠ .gt := by
  unfold inOrder
  cases c.compare previous next <;> decide

theorem inOrder_eq_false_iff (c : Collation) (previous next : String) :
    c.inOrder previous next = false ↔ c.compare previous next = .gt := by
  unfold inOrder
  cases c.compare previous next <;> decide

theorem ne_gt_trans {c : Collation} [Std.TransCmp c.compare] {i j k : String}
    (hij : c.compare i j ≠ .gt) (hjk : c.compare j k ≠ .gt) : c.compare i k ≠ .gt := by
  have hle : (c.compare i k).isLE := Std.TransCmp.isLE_trans (Ordering.isLE_iff_ne_gt.2 hij)
    (Ordering.isLE_iff_ne_gt.2 hjk)
  exact Ordering.isLE_iff_ne_gt.1 hle

end Collation

end BucketDigest
