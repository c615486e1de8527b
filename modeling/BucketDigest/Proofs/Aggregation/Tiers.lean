import BucketDigest.Proofs.Aggregation.Coarsening
import BucketDigest.Proofs.Aggregation.Offsets

/-!
# Tiers of prefixes

Each step to a finer tier drops the first offset. The tiers of a list of offsets are thus its tails,
all of which would be accepted on their own, and they end before the list is used up. A finer label
is a longer prefix, so it has the coarser labels of the value that it was cut from.

* `refineBy?_eq_some_iff`: what so many steps lead to, by induction on their number.
* `tier_label_label`: coarse labels of fine labels.

Main statement: `Aggregation.prefix_tiers_refine`.
-/
namespace BucketDigest

namespace Offsets

variable {o : Offsets}

/-- The offsets of the tier that so many steps lead to. -/
def drop (o : Offsets) (k : Nat) (h : k < o.toList.length) : Offsets where
  toList := o.toList.drop k
  nonempty := by rwa [ne_eq, List.drop_eq_nil_iff, Nat.not_le]
  ascending := o.ascending.sublist (.cons_cons 0 (List.drop_sublist k o.toList))

/-- Values are cut to the offset in front. -/
theorem getElem?_of_toList_eq_drop {o' : Offsets} {k : Nat} (h : o'.toList = o.toList.drop k) :
    o.toList[k]? = some o'.prefixLength := by
  rw [← List.head?_drop, ← h]
  exact List.head?_eq_some_head o'.nonempty

/-- Finer tiers keep longer prefixes. -/
theorem prefixLength_le {oj ok : Offsets} {j k : Nat} (hle : j ≤ k)
    (hj : oj.toList = o.toList.drop j) (hk : ok.toList = o.toList.drop k) :
    oj.prefixLength ≤ ok.prefixLength := by
  obtain ⟨hjlt, hj⟩ := List.getElem?_eq_some_iff.1 (getElem?_of_toList_eq_drop hj)
  obtain ⟨hklt, hk⟩ := List.getElem?_eq_some_iff.1 (getElem?_of_toList_eq_drop hk)
  rw [← hj, ← hk]
  rcases Nat.eq_or_lt_of_le hle with rfl | hlt
  · exact UInt64.le_refl _
  · have hascending := (List.pairwise_cons.1 o.ascending).2
    exact UInt64.le_of_lt (List.pairwise_iff_getElem.1 hascending j k hjlt hklt hlt)

/-- A label is the first characters of the value, all of them if there are not as many. -/
theorem isPrefix_label (o : Offsets) (raw : String) :
    (o.label raw).toList <+: raw.toList ∧
      (o.label raw).toList.length = min o.prefixLength.toNat raw.toList.length := by
  unfold label
  rw [String.toList_ofList]
  exact ⟨List.take_prefix _ _, List.length_take⟩

end Offsets

namespace Aggregation

variable {a b c : Aggregation} {o : Offsets} {attr : String} {parent : Option String}

/-- The tier that so many steps lead to, if there are so many. -/
def refineBy? (a : Aggregation) : Nat → Option Aggregation
  | 0 => some a
  | k + 1 => (a.refineBy? k).bind refine?

/-- A step keeps everything but the first offset. -/
theorem refine?_textPrefix_eq_some_iff :
    (mk attr (.textPrefix o) parent).refine? = some b ↔
      ∃ o' : Offsets, o'.toList = o.toList.tail ∧ b = ⟨attr, .textPrefix o', parent⟩ := by
  unfold refine?
  simp only [Option.map_eq_some_iff, Offsets.refine?_eq_some_iff]
  exact exists_congr fun o' => and_congr_right fun _ => eq_comm

/-- So many steps drop so many offsets and keep everything else. -/
theorem refineBy?_eq_some_iff {k : Nat} :
    (mk attr (.textPrefix o) parent).refineBy? k = some b ↔
      ∃ o' : Offsets, o'.toList = o.toList.drop k ∧ b = ⟨attr, .textPrefix o', parent⟩ := by
  induction k generalizing b with
  | zero =>
    rw [refineBy?, Option.some.injEq]
    constructor
    · rintro rfl
      exact ⟨o, rfl, rfl⟩
    · rintro ⟨o', h, rfl⟩
      rw [Offsets.ext h]
  | succ k ih =>
    rw [refineBy?, Option.bind_eq_some_iff]
    constructor
    · rintro ⟨c, hc, hb⟩
      obtain ⟨o', h, rfl⟩ := ih.1 hc
      obtain ⟨o'', h', rfl⟩ := refine?_textPrefix_eq_some_iff.1 hb
      exact ⟨o'', by rw [h', h, List.tail_drop], rfl⟩
    · rintro ⟨o'', h, rfl⟩
      -- There is a step before the last, since there are offsets behind it.
      have hlt : k < o.toList.length := by
        have hne := o''.nonempty
        rw [h, ne_eq, List.drop_eq_nil_iff] at hne
        omega
      refine ⟨_, ih.2 ⟨o.drop k hlt, rfl, rfl⟩, refine?_textPrefix_eq_some_iff.2 ⟨o'', ?_, rfl⟩⟩
      rw [h, ← List.tail_drop]
      rfl

theorem exists_refineBy?_iff {k : Nat} :
    (∃ b, (mk attr (.textPrefix o) parent).refineBy? k = some b) ↔ k < o.toList.length := by
  constructor
  · rintro ⟨b, h⟩
    obtain ⟨o', h, -⟩ := refineBy?_eq_some_iff.1 h
    have hne := o'.nonempty
    rwa [h, ne_eq, List.drop_eq_nil_iff, Nat.not_le] at hne
  · intro hlt
    exact ⟨_, refineBy?_eq_some_iff.2 ⟨o.drop k hlt, rfl, rfl⟩⟩

/-- The label of a value at a tier, labelled at a coarser tier, gives the label of the value
there. -/
theorem tier_label_label {j k : Nat} (hle : j ≤ k)
    (hb : (mk attr (.textPrefix o) parent).refineBy? j = some b)
    (hc : (mk attr (.textPrefix o) parent).refineBy? k = some c) (raw : String) :
    ∃ label label', c.rule.label raw = .ok label ∧ b.rule.label raw = .ok label' ∧
      b.rule.label label = .ok label' := by
  obtain ⟨oj, hj, rfl⟩ := refineBy?_eq_some_iff.1 hb
  obtain ⟨ok, hk, rfl⟩ := refineBy?_eq_some_iff.1 hc
  have hrefines : Rule.Refines (.textPrefix ok) (.textPrefix oj) :=
    .textPrefix (Offsets.prefixLength_le hle hj hk)
  exact ⟨_, _, rfl, rfl, hrefines.label_label trivial rfl rfl⟩

/-- **Tiers of prefixes refine each other.** A list of offsets is accepted just if it is not empty
and ascends from above zero, and what is refused is named. Of so many offsets there are so many
tiers, each with the offsets that are left, which are a list that is accepted. A label at a tier is
the prefix of the length that its offset gives, and each coarser label depends on it alone. -/
theorem prefix_tiers_refine (attr : String) (parent : Option String) (l : List UInt64) :
    ((∃ o, Offsets.ofList l = .ok o) ↔
      l ≠ [] ∧ (∀ n, l.head? = some n → 0 < n) ∧ l.Pairwise (· < ·)) ∧
    (∀ error, Offsets.ofList l = .error error ↔
      l = [] ∧ error = .noOffsets ∨
      l.head? = some 0 ∧ error = .invalidOffset 0 ∨
      l.head? ≠ some 0 ∧ ∃ offset, IsFirstOffence l offset ∧ error = .invalidOffset offset) ∧
    ∀ o, Offsets.ofList l = .ok o →
      (∀ k, (∃ b, (mk attr (.textPrefix o) parent).refineBy? k = some b) ↔ k < l.length) ∧
      (∀ k b, (mk attr (.textPrefix o) parent).refineBy? k = some b →
        (∃ o', b = ⟨attr, .textPrefix o', parent⟩ ∧ Offsets.ofList (l.drop k) = .ok o') ∧
        ∀ raw, ∃ label n, b.rule.label raw = .ok label ∧ l[k]? = some n ∧
          label.toList <+: raw.toList ∧
          label.toList.length = min n.toNat raw.toList.length) ∧
      ∀ j k b c, j ≤ k → (mk attr (.textPrefix o) parent).refineBy? j = some b →
        (mk attr (.textPrefix o) parent).refineBy? k = some c →
        (∀ raw, ∃ label label', c.rule.label raw = .ok label ∧ b.rule.label raw = .ok label' ∧
          b.rule.label label = .ok label') ∧
        ∀ raw raw', c.rule.label raw = c.rule.label raw' →
          b.rule.label raw = b.rule.label raw' := by
  refine ⟨Offsets.exists_ofList_iff.trans (and_congr_right' pairwise_zero_cons_iff),
    fun error => Offsets.ofList_eq_error_iff, fun o ho => ?_⟩
  obtain rfl := Offsets.ofList_eq_ok_iff.1 ho
  refine ⟨fun k => exists_refineBy?_iff, fun k b hb => ?_, fun j k b c hle hb hc => ⟨?_, ?_⟩⟩
  · obtain ⟨o', hdrop, rfl⟩ := refineBy?_eq_some_iff.1 hb
    refine ⟨⟨o', rfl, Offsets.ofList_eq_ok_iff.2 hdrop⟩, fun raw => ?_⟩
    exact ⟨_, _, rfl, Offsets.getElem?_of_toList_eq_drop hdrop, o'.isPrefix_label raw⟩
  · exact tier_label_label hle hb hc
  · intro raw raw' hsame
    obtain ⟨label, label', hlabel, hcoarse, hagain⟩ := tier_label_label hle hb hc raw
    obtain ⟨label₂, label₂', hlabel₂, hcoarse₂, hagain₂⟩ := tier_label_label hle hb hc raw'
    obtain rfl : label = label₂ := by
      rw [hlabel, hlabel₂] at hsame
      exact Except.ok.inj hsame
    rw [hcoarse, hcoarse₂, ← hagain, ← hagain₂]

/-- Offsets one and three give two tiers. Values that share three characters share the first. -/
theorem prefix_tiers_refine_by_three :
    ∃ o fine, Offsets.ofList [1, 3] = .ok o ∧
      (mk "name" (.textPrefix o) none).refineBy? 1 = some (mk "name" (.textPrefix fine) none) ∧
      Offsets.ofList [3] = .ok fine ∧
      fine.label "日本語版" = "日本語" ∧ fine.label "日本語訳" = "日本語" ∧
      (Rule.textPrefix o).label "日本語版" = (Rule.textPrefix o).label "日本語訳" ∧
      Offsets.ofList [1, 3, 3] = .error (.invalidOffset 3) := by
  let o : Offsets := ⟨[1, 3], by decide, by decide⟩
  let fine : Offsets := ⟨[3], by decide, by decide⟩
  have ho : Offsets.ofList [1, 3] = .ok o := Offsets.ofList_eq_ok_iff.2 rfl
  have hfine : (mk "name" (.textPrefix o) none).refineBy? 1 =
      some (mk "name" (.textPrefix fine) none) := refineBy?_eq_some_iff.2 ⟨fine, rfl, rfl⟩
  obtain ⟨-, -, htiers⟩ := prefix_tiers_refine "name" none [1, 3]
  obtain ⟨-, htier, hlabels⟩ := htiers o ho
  obtain ⟨⟨o', hsame, ho'⟩, -⟩ := htier 1 _ hfine
  cases hsame
  have hlabel : fine.label "日本語版" = "日本語" := by decide +kernel
  have hlabel' : fine.label "日本語訳" = "日本語" := by decide +kernel
  refine ⟨o, fine, ho, hfine, ho', hlabel, hlabel', ?_, ?_⟩
  · obtain ⟨-, hshared⟩ := hlabels 0 1 _ _ (by decide) rfl hfine
    exact hshared _ _ (congrArg Except.ok (hlabel.trans hlabel'.symm))
  · obtain ⟨-, hrefused, -⟩ := prefix_tiers_refine "name" none [1, 3, 3]
    exact (hrefused _).2 (.inr (.inr ⟨by decide, 3, ⟨[1], 3, [], rfl, by decide, by decide⟩, rfl⟩))

end Aggregation

end BucketDigest
