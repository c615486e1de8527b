import BucketDigest.Proofs.Aggregation.Coarsening
import BucketDigest.Proofs.Time.Form

/-!
# Which dates have labels

A text has a label at a granularity just if one of the forms reads it as precisely as that. If it
does not, the refusal says which of the two is wrong: the text is no date, or it is a date that is
too coarse. A text that is read can be written out at every granularity up to its precision, so the
third refusal, for values without the parts of a label, never comes up.

Main statement: `DateGranularity.refusals_are_exact`.
-/
namespace BucketDigest

open Time (Moment)
open Time.Moment (Form)

/-! ## Wordings -/

theorem LabelError.notDate_message_ne (g : DateGranularity) :
    LabelError.notDate.message ≠ (coarserThan g).message := by
  cases g <;> decide

theorem LabelError.unsupported_message_ne (g : DateGranularity) :
    LabelError.unsupported.message ≠ (coarserThan g).message := by
  cases g <;> decide

namespace DateGranularity

/-! ## Refusals -/

variable {g : DateGranularity} {raw text : String} {m : Moment}

/-- What a granularity says to a text that it gives no label to. -/
def Refuses (g : DateGranularity) (raw text : String) : Prop :=
  ∃ reason, g.label raw = .error reason ∧ reason.message = text

theorem label_of_unread (h : Moment.read? raw = none) : g.label raw = .error .notDate := by
  unfold label
  rw [h]

theorem label_of_coarse (h : Moment.read? raw = some m) (hlt : m.precision < g) :
    g.label raw = .error (.coarserThan g) := by
  unfold label
  rw [h]
  exact if_pos hlt

theorem exists_label_of_precise (h : Moment.read? raw = some m) (hle : g ≤ m.precision) :
    ∃ label, g.label raw = .ok label := by
  cases htext : g.text? m with
  | none => exact absurd ((text?_eq_none_iff g m).1 htext) (Nat.not_lt.2 hle)
  | some text => exact ⟨_, label_eq_ok_iff.2 ⟨m, text, h, htext, rfl⟩⟩

theorem exists_label_iff :
    (∃ label, g.label raw = .ok label) ↔ ∃ m, Moment.read? raw = some m ∧ g ≤ m.precision := by
  constructor
  · rintro ⟨label, h⟩
    obtain ⟨m, text, hread, htext, -⟩ := label_eq_ok_iff.1 h
    refine ⟨m, hread, Nat.not_lt.1 fun hlt => ?_⟩
    rw [(text?_eq_none_iff g m).2 hlt] at htext
    cases htext
  · rintro ⟨m, hread, hle⟩
    exact exists_label_of_precise hread hle

/-- A text is refused as no date or as too coarse, and for no other reason. -/
theorem refuses_iff :
    g.Refuses raw text ↔
      Moment.read? raw = none ∧ text = LabelError.notDate.message ∨
      (∃ m, Moment.read? raw = some m ∧ m.precision < g) ∧
        text = (LabelError.coarserThan g).message := by
  constructor
  · rintro ⟨reason, h, rfl⟩
    cases hread : Moment.read? raw with
    | none =>
      rw [label_of_unread hread] at h
      cases h
      exact .inl ⟨rfl, rfl⟩
    | some m =>
      rcases Nat.lt_or_ge m.precision.rank g.rank with hlt | hle
      · rw [label_of_coarse hread hlt] at h
        cases h
        exact .inr ⟨⟨m, rfl, hlt⟩, rfl⟩
      · obtain ⟨label, hok⟩ := exists_label_of_precise hread hle
        rw [hok] at h
        cases h
  · rintro (⟨hread, rfl⟩ | ⟨⟨m, hread, hlt⟩, rfl⟩)
    · exact ⟨_, label_of_unread hread, rfl⟩
    · exact ⟨_, label_of_coarse hread hlt, rfl⟩

theorem refuses_notDate_iff :
    g.Refuses raw LabelError.notDate.message ↔ Moment.read? raw = none := by
  rw [refuses_iff]
  constructor
  · rintro (⟨hread, -⟩ | ⟨-, htext⟩)
    · exact hread
    · exact absurd htext (LabelError.notDate_message_ne g)
  · exact fun hread => .inl ⟨hread, rfl⟩

theorem refuses_coarser_iff :
    g.Refuses raw (LabelError.coarserThan g).message ↔
      ∃ m, Moment.read? raw = some m ∧ m.precision < g := by
  rw [refuses_iff]
  constructor
  · rintro (⟨-, htext⟩ | ⟨hm, -⟩)
    · exact absurd htext.symm (LabelError.notDate_message_ne g)
    · exact hm
  · exact fun hm => .inr ⟨hm, rfl⟩

theorem not_refuses_unsupported : ¬g.Refuses raw LabelError.unsupported.message := by
  rw [refuses_iff]
  rintro (⟨-, htext⟩ | ⟨-, htext⟩)
  · exact absurd htext (by decide)
  · exact LabelError.unsupported_message_ne g htext

/-- **Refusals of dates are exact.** At most one form reads a text, so the order in which they are
tried does not matter. A text is refused as no date just if no form reads it, as too coarse just if
one reads it with less precision than the granularity asks for, and for no third reason; otherwise
it has a label, and then it has one at every coarser granularity. -/
theorem refusals_are_exact (raw : String) :
    (∀ (f f' : Form) m m', f.read? raw = some m → f'.read? raw = some m' → f = f') ∧
    (∀ order : List Form, (∀ f, f ∈ order) →
      order.findSome? (·.read? raw) = Moment.read? raw) ∧
    ∀ g : DateGranularity,
      (g.Refuses raw "not a date or timestamp" ↔ ∀ f : Form, f.read? raw = none) ∧
      (g.Refuses raw ("value is coarser than " ++ g.name ++ " granularity") ↔
        ∃ (f : Form) (m : Moment), f.read? raw = some m ∧ m.precision < g) ∧
      ¬g.Refuses raw "value precision does not support granularity" ∧
      ((∃ label, g.label raw = .ok label) ↔
        ∃ (f : Form) (m : Moment), f.read? raw = some m ∧ g ≤ m.precision) ∧
      ∀ g' ≤ g, (∃ label, g.label raw = .ok label) → ∃ label, g'.label raw = .ok label := by
  have hform : ∀ P : Moment → Prop, (∃ m, Moment.read? raw = some m ∧ P m) ↔
      ∃ (f : Form) (m : Moment), f.read? raw = some m ∧ P m := by
    intro P
    simp only [Moment.read?_eq_some_iff, exists_and_right.symm]
    exact exists_comm
  refine ⟨fun f f' m m' h h' => Form.eq_of_read? h h',
    fun order hall => Moment.findSome?_read? hall raw, fun g => ⟨?_, ?_, ?_, ?_, ?_⟩⟩
  · exact refuses_notDate_iff.trans Moment.read?_eq_none_iff
  · exact refuses_coarser_iff.trans (hform _)
  · exact not_refuses_unsupported
  · exact exists_label_iff.trans (hform _)
  · intro g' hle h
    obtain ⟨m, hread, hprecise⟩ := exists_label_iff.1 h
    exact exists_label_iff.2 ⟨m, hread, Nat.le_trans hle hprecise⟩

/-- A month is read as a period. It has a monthly label and thus a yearly one, but no daily one. -/
theorem refusals_are_exact_of_month :
    Form.period.read? "2021-06" = some (.month 2021 6) ∧ (∀ f, f ∈ Form.all) ∧
      (∀ (f : Form) m, f.read? "2021-06" = some m → f = .period) ∧
      Form.all.reverse.findSome? (·.read? "2021-06") = Moment.read? "2021-06" ∧
      DateGranularity.daily.Refuses "2021-06" "value is coarser than daily granularity" ∧
      ∃ label, DateGranularity.yearly.label "2021-06" = .ok label := by
  have hread : Form.period.read? "2021-06" = some (.month 2021 6) := by decide +kernel
  obtain ⟨hunique, horder, hexact⟩ := refusals_are_exact "2021-06"
  obtain ⟨-, hcoarse, -⟩ := hexact .daily
  obtain ⟨-, -, -, hlabel, hcoarser⟩ := hexact .monthly
  refine ⟨hread, Form.mem_all, fun f m h => hunique _ _ _ _ h hread, horder _ ?_,
    hcoarse.2 ⟨.period, _, hread, by decide⟩, ?_⟩
  · exact fun f => List.mem_reverse.2 (Form.mem_all f)
  · exact hcoarser .yearly (by decide) (hlabel.2 ⟨.period, _, hread, by decide⟩)

end DateGranularity

end BucketDigest
