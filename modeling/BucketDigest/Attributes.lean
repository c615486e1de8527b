import BucketDigest.SortedMap

/-!
# Attributes

Names with values, in the order of the names. Attribute maps are ordered themselves, by their pairs
of name and value from the first on, so that digests can be listed in one fixed order.
-/
namespace BucketDigest

/-- The attributes of an entry, or the labels of a bucket. -/
abbrev Attributes := SortedMap String String

namespace Attributes

/-- Compares two pairs by name and then by value. -/
def comparePair (x y : String × String) : Ordering :=
  (compare x.1 y.1).then (compare x.2 y.2)

instance : Std.TransCmp comparePair where
  eq_swap {x y} := by
    rw [comparePair, comparePair, Ordering.swap_then, ← Std.OrientedOrd.eq_swap,
      ← Std.OrientedOrd.eq_swap]
  isLE_trans {x y z} hxy hyz := by
    simp only [comparePair, Ordering.isLE_then_iff_or] at *
    rcases hxy with hxy | ⟨hxy, hxy'⟩
    · left
      rcases hyz with hyz | ⟨hyz, -⟩
      · exact Std.TransCmp.lt_trans hxy hyz
      · exact Std.TransCmp.lt_of_lt_of_eq hxy hyz
    · rcases hyz with hyz | ⟨hyz, hyz'⟩
      · exact .inl (Std.TransCmp.lt_of_eq_of_lt hxy hyz)
      · exact .inr ⟨Std.TransCmp.eq_trans hxy hyz, Std.TransCmp.isLE_trans hxy' hyz'⟩

instance : Std.LawfulEqCmp comparePair where
  compare_self {x} := by simp [comparePair]
  eq_of_compare {x y} h := by
    simp only [comparePair, Ordering.then_eq_eq] at h
    exact Prod.ext (Std.LawfulEqCmp.eq_of_compare h.1) (Std.LawfulEqCmp.eq_of_compare h.2)

/-- Compares two maps by their pairs, from the first on. -/
def order (a b : Attributes) : Ordering :=
  List.compareLex comparePair a.entries b.entries

instance : Ord Attributes := ⟨order⟩

theorem isLE_trans {a b c : Attributes} (hab : (order a b).isLE) (hbc : (order b c).isLE) :
    (order a c).isLE :=
  have h : Std.TransCmp (List.compareLex comparePair) := inferInstance
  h.isLE_trans hab hbc

theorem eq_swap {a b : Attributes} : order a b = (order b a).swap :=
  have h : Std.OrientedCmp (List.compareLex comparePair) := inferInstance
  h.eq_swap

theorem order_self {a : Attributes} : order a a = .eq :=
  have h : Std.ReflCmp (List.compareLex comparePair) := inferInstance
  h.compare_self

theorem eq_of_order {a b : Attributes} (h : order a b = .eq) : a = b :=
  have hc : Std.LawfulEqCmp (List.compareLex comparePair) := inferInstance
  SortedMap.ext (hc.eq_of_compare h)

instance : Std.TransOrd Attributes where
  eq_swap := eq_swap
  isLE_trans := isLE_trans

instance : Std.LawfulEqOrd Attributes where
  compare_self := order_self
  eq_of_compare := eq_of_order

end Attributes

end BucketDigest
