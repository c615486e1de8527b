import BucketDigest.Proofs.Collation
import BucketDigest.Proofs.Text.OctetOrder

/-!
# Octet order is code point order

The octet collation looks at UTF-8 only, and sorts ids as if it compared their code points: nothing
of the encoding shows, wherever characters of one to four octets meet.

* `ascii_compare_eq`: it compares texts as their characters do, `compareLex_codePoints` as their
  code points.
* `inOrder_ascii_iff`: so an id may follow another unless its characters sort below.
* `ascii_is_code_point_order`: it is the linear order of code points.
-/
namespace BucketDigest

/-- The code points of a text, in order. -/
def Text.codePoints (s : String) : List Nat := s.toList.map Char.toNat

theorem Text.codePoints_injective {s t : String} (h : codePoints s = codePoints t) : s = t :=
  String.toList_injective ((List.map_inj_right fun _ _ => Char.toNat_inj.1).1 h)

/-- The octets of a text are those with which it is stored. -/
theorem Text.bytes_eq_toByteArray (s : String) : bytes s = s.toByteArray.data.toList := by
  rw [← String.utf8Encode_toList, List.utf8Encode, List.data_toByteArray, List.toList_toArray]
  rfl

theorem compare_toNat (c d : Char) : compare c.toNat d.toNat = compare c d := by
  rcases Nat.lt_trichotomy c.toNat d.toNat with hlt | heq | hgt
  · rw [Nat.compare_eq_lt.2 hlt, Text.compare_char_lt_iff.2 hlt]
  · obtain rfl := Char.toNat_inj.1 heq
    rw [Std.ReflOrd.compare_self, Std.ReflOrd.compare_self]
  · rw [Nat.compare_eq_gt.2 hgt, Std.OrientedCmp.gt_iff_lt.2 (Text.compare_char_lt_iff.2 hgt)]

namespace Collation

/-! ## Characters and code points -/

/-- Ids compare as their characters do. -/
theorem ascii_compare_eq (a b : String) :
    ascii.compare a b = List.compareLex Ord.compare a.toList b.toList :=
  Text.compareLex_flatMap_encode a.toList b.toList

theorem compareLex_map_toNat (l m : List Char) :
    List.compareLex Ord.compare (l.map Char.toNat) (m.map Char.toNat) =
      List.compareLex Ord.compare l m := by
  induction l generalizing m with
  | nil => cases m <;> rfl
  | cons c l ih =>
    cases m with
    | nil => rfl
    | cons d m =>
      rw [List.map_cons, List.map_cons, List.compareLex_cons_cons, List.compareLex_cons_cons,
        compare_toNat, ih]

/-- Ids compare as their code points do. -/
theorem compareLex_codePoints (a b : String) :
    List.compareLex Ord.compare (Text.codePoints a) (Text.codePoints b) = ascii.compare a b := by
  rw [ascii_compare_eq]
  exact compareLex_map_toNat a.toList b.toList

/-! ## The order of ids -/

theorem ascii_compare_eq_eq_iff {a b : String} : ascii.compare a b = .eq ↔ a = b := by
  rw [← compareLex_codePoints, Std.LawfulEqCmp.compare_eq_iff_eq]
  exact ⟨Text.codePoints_injective, congrArg Text.codePoints⟩

theorem ascii_compare_swap (a b : String) : ascii.compare b a = (ascii.compare a b).swap :=
  Std.OrientedCmp.eq_swap

/-- An id may follow another unless its characters sort below those of the other. -/
theorem inOrder_ascii_iff (cs ds : List Char) :
    ascii.inOrder (String.ofList cs) (String.ofList ds) = true ↔ ¬ ds < cs := by
  have hcompare := ascii_compare_eq (String.ofList ds) (String.ofList cs)
  rw [String.toList_ofList, String.toList_ofList] at hcompare
  rw [inOrder_iff, ← Text.compareLex_eq_lt_iff, ← hcompare, ascii_compare_swap (String.ofList cs)]
  cases ascii.compare (String.ofList cs) (String.ofList ds) <;> decide

theorem inOrder_ascii_total (a b : String) :
    ascii.inOrder a b = true ∨ ascii.inOrder b a = true := by
  rw [inOrder_iff, inOrder_iff, ascii_compare_swap a b]
  cases ascii.compare a b <;> decide

/-- **Octet order is code point order.** The octet collation compares the octets of ids, which comes
to comparing their code points from the first on. Only an id itself compares as equal to it, the
other way round the answer is reversed, of any two ids one may follow the other, and what may follow
an id may follow all that the id may follow. -/
theorem ascii_is_code_point_order :
    (∀ a b : String,
      ascii.compare a b =
        List.compareLex Ord.compare a.toByteArray.data.toList b.toByteArray.data.toList ∧
      ascii.compare a b =
        List.compareLex Ord.compare (Text.codePoints a) (Text.codePoints b)) ∧
    (∀ a b, ascii.compare a b = .eq ↔ a = b) ∧
    (∀ a b, ascii.compare b a = (ascii.compare a b).swap) ∧
    (∀ a b, ascii.inOrder a b = true ∨ ascii.inOrder b a = true) ∧
    ∀ a b c, ascii.inOrder a b = true → ascii.inOrder b c = true → ascii.inOrder a c = true := by
  refine ⟨fun a b => ⟨?_, (compareLex_codePoints a b).symm⟩, fun a b => ascii_compare_eq_eq_iff,
    ascii_compare_swap, inOrder_ascii_total, fun a b c hab hbc => ?_⟩
  · rw [← Text.bytes_eq_toByteArray, ← Text.bytes_eq_toByteArray]
    rfl
  · rw [inOrder_iff] at hab hbc ⊢
    exact ne_gt_trans hab hbc

/-- Characters of one, two, three and four octets, of which the last two would change places if
UTF-16 were compared. -/
theorem ascii_is_code_point_order_of_all_lengths :
    (ascii.inOrder "z" "é" = true ∧ ascii.inOrder "é" "\uffff" = true ∧
      ascii.inOrder "\uffff" "😀" = true) ∧
    ascii.inOrder "z" "😀" = true ∧ ascii.compare "\uffff" "😀" = .lt := by
  obtain ⟨hcompare, -, -, -, htrans⟩ := ascii_is_code_point_order
  have hone : ascii.inOrder "z" "é" = true := by decide +kernel
  have htwo : ascii.inOrder "é" "\uffff" = true := by decide +kernel
  have hthree : ascii.inOrder "\uffff" "😀" = true := by decide +kernel
  refine ⟨⟨hone, htwo, hthree⟩, htrans _ _ _ (htrans _ _ _ hone htwo) hthree, ?_⟩
  rw [(hcompare "\uffff" "😀").2]
  decide +kernel

end Collation

end BucketDigest
