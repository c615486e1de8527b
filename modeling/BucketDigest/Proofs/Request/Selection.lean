import Mathlib.Data.List.Nodup
import BucketDigest.Collation.Weights
import BucketDigest.Digester
import BucketDigest.Proofs.Scan.History

/-!
# One aggregation for each attribute

Whatever is asked of a selection comes to a single choice, however the questions are nested
(`run_work`). So `step_cases` says all that a question can do, and `Exclusive` is the invariant: no
attribute has two aggregations.

* `exclusive_run` carries it through any questions, and `prefix_run` says that nothing that has been
  chosen is touched again.
* `one_aggregation_for_each_attribute` puts it together, up to the scan that is set up with what a
  request has chosen.
-/
namespace BucketDigest.Request

/-! ## What a question comes to -/

/-- The rule that is asked for: grouping by name before prefixes, and those before granularities. -/
def ParameterSource.ruleFor (p : ParameterSource) (attr : String) (type : AttributeType) :
    Except RequestError (Option Rule) :=
  match p.byNameRule attr with
  | some rule => .ok (some rule)
  | none =>
    match p.prefixRule attr with
    | .error error => .error error
    | .ok (some rule) => .ok (some rule)
    | .ok none => p.typedRule attr type

/-- The rule that a question is about. -/
def Ask.rule : Ask → ParameterSource → Except RequestError (Option Rule)
  | .any attr type, p => p.ruleFor attr type
  | .date attr, p => p.typedRule attr .date
  | .integer attr, p => p.typedRule attr .integer
  | .byName attr, p => .ok (p.byNameRule attr)
  | .textPrefix attr, p => p.prefixRule attr

/-- Whether an answer is that there is one aggregation more. -/
def isYes : Except RequestError Outcome → Bool
  | .ok outcome => outcome.isAdded
  | .error _ => false

namespace Selection

variable {s : Selection}

/-- Trying one thing after the other is one choice of the rule that comes first. The checks on the
way find nothing new: what is tried first and not chosen leaves the selection as it is. -/
theorem run_add (s : Selection) (attr : String) (type : AttributeType) :
    (add attr type).run s = (choose attr fun p => p.ruleFor attr type).run s := by
  rw [run_choose]
  simp only [add, EStateM.run_bind, EStateM.run_get]
  cases hgoverns : s.governs attr with
  | true => rfl
  | false =>
    simp only [ParameterSource.ruleFor, EStateM.run_bind, addByName, addPrefix, addTyped,
      run_choose, hgoverns, Bool.false_eq_true, if_false]
    cases s.parameters.byNameRule attr with
    | some rule => rfl
    | none =>
      simp only [Outcome.isAdded, Bool.false_eq_true, if_false, EStateM.run_bind, run_choose,
        hgoverns]
      rcases s.parameters.prefixRule attr with error | _ | rule
      · rfl
      · simp only [Bool.false_eq_true, if_false, run_choose, hgoverns]
      · rfl

theorem run_work (s : Selection) (ask : Ask) :
    ask.work.run s = (choose ask.attr ask.rule).run s := by
  cases ask with
  | any attr type => exact run_add s attr type
  | date attr => rfl
  | integer attr => rfl
  | byName attr => rfl
  | textPrefix attr => rfl

/-- All that a question can do: it adds one aggregation, for an attribute that had none, and says
so; or it changes nothing. -/
theorem step_cases (s : Selection) (ask : Ask) :
    (∃ a, a.attr = ask.attr ∧ s.governs ask.attr = false ∧
      s.step ask = (s.extend a, .ok (.added a))) ∨
    ∃ answer, isYes answer = false ∧ s.step ask = (s, answer) := by
  unfold step
  rw [run_work, run_choose]
  cases hgoverns : s.governs ask.attr with
  | true => exact .inr ⟨.ok .alreadyAggregated, rfl, rfl⟩
  | false =>
    rcases ask.rule s.parameters with error | _ | rule
    · exact .inr ⟨.error error, rfl, rfl⟩
    · exact .inr ⟨.ok .notRequested, rfl, rfl⟩
    · exact .inl ⟨⟨ask.attr, rule, s.parameters.parent? ask.attr⟩, rfl, rfl, rfl⟩

/-! ## Any number of questions -/

/-- No attribute has two aggregations. -/
def Exclusive (s : Selection) : Prop := (s.chosen.map Aggregation.attr).Nodup

theorem governs_eq_false_iff (s : Selection) (attr : String) :
    s.governs attr = false ↔ attr ∉ s.chosen.map Aggregation.attr := by
  simp [governs]

theorem Exclusive.extend (h : s.Exclusive) {a : Aggregation} (ha : s.governs a.attr = false) :
    (s.extend a).Exclusive := by
  unfold Exclusive Selection.extend
  rw [List.map_append, List.map_singleton]
  exact List.Nodup.append h (List.nodup_singleton _)
    (List.disjoint_singleton.2 ((governs_eq_false_iff s a.attr).1 ha))

theorem exclusive_step (h : s.Exclusive) (ask : Ask) : (s.step ask).1.Exclusive := by
  rcases step_cases s ask with ⟨a, hattr, hnew, hstep⟩ | ⟨answer, -, hstep⟩
  · rw [hstep]
    exact h.extend (hattr ▸ hnew)
  · rw [hstep]
    exact h

theorem prefix_step (s : Selection) (ask : Ask) : s.chosen <+: (s.step ask).1.chosen := by
  rcases step_cases s ask with ⟨a, -, -, hstep⟩ | ⟨answer, -, hstep⟩
  · exact hstep ▸ List.prefix_append _ _
  · exact hstep ▸ List.prefix_rfl

theorem run_cons (s : Selection) (ask : Ask) (asks : List Ask) :
    s.run (ask :: asks) =
      (((s.step ask).1.run asks).1,
        (ask, (s.step ask).2) :: ((s.step ask).1.run asks).2) := rfl

theorem exclusive_run (asks : List Ask) (h : s.Exclusive) : (s.run asks).1.Exclusive := by
  induction asks generalizing s with
  | nil => exact h
  | cons ask asks ih => exact ih (exclusive_step h ask)

/-- What has been chosen stays chosen, in its place. -/
theorem prefix_run (asks : List Ask) (s : Selection) : s.chosen <+: (s.run asks).1.chosen := by
  induction asks generalizing s with
  | nil => exact List.prefix_rfl
  | cons ask asks ih => exact (prefix_step s ask).trans (ih (s.step ask).1)

/-- Declared attributes that are all gone through are questions one after the other. -/
theorem eq_run_of_addAll {declared : List (String × AttributeType)} {s' : Selection}
    (h : (addAll declared).run s = .ok () s') :
    s' = (s.run (declared.map fun x => .any x.1 x.2)).1 := by
  induction declared generalizing s with
  | nil => cases h; rfl
  | cons x rest ih =>
    obtain ⟨attr, type⟩ := x
    simp only [addAll, EStateM.run_bind] at h
    simp only [List.map_cons, run_cons, step, Ask.work]
    cases hadd : (add attr type).run s with
    | error error s₁ => rw [hadd] at h; cases h
    | ok outcome s₁ => rw [hadd] at h; exact ih h

theorem eraseDups_of_nodup {α : Type} [BEq α] [LawfulBEq α] {l : List α} (h : l.Nodup) :
    l.eraseDups = l := by
  induction l with
  | nil => rfl
  | cons a rest ih =>
    obtain ⟨ha, hrest⟩ := List.nodup_cons.1 h
    have hkept : (rest.filter fun b => !b == a) = rest := by
      refine List.filter_eq_self.2 fun b hb => ?_
      simpa using fun he : b = a => ha (he ▸ hb)
    rw [List.eraseDups_cons, hkept, ih hrest]

/-- Two aggregations that are equal govern the same attribute. -/
theorem Exclusive.distinct_eq (h : s.Exclusive) : s.distinct = s.chosen :=
  eraseDups_of_nodup (List.Nodup.of_map _ h)

end Selection

/-! ## What a request has chosen -/

theorem exclusive_of_addAll {p : ParameterSource} {declared : List (String × AttributeType)}
    {s : Selection} (h : (Selection.addAll declared).run (.start p) = .ok () s) : s.Exclusive := by
  rw [Selection.eq_run_of_addAll h]
  exact Selection.exclusive_run _ List.nodup_nil

section
variable {d : Digester} {collator : Collator}

theorem exists_scan_of_nodup (h : (d.aggregations.map Aggregation.attr).Nodup)
    {collation : Collation} (hbuild : d.settings.collation.build collator = .ok collation) :
    ∃ scan, d.scan collator = .ok scan := by
  unfold Digester.scan Scan.ofSettings
  rw [hbuild]
  simp only [Scan.start_of_nodup h]
  exact ⟨_, rfl⟩

theorem scan_ne_duplicate_of_nodup (h : (d.aggregations.map Aggregation.attr).Nodup)
    (attr : String) : d.scan collator ≠ .error (.setup (.duplicateAggregation attr)) := by
  intro hscan
  cases hbuild : d.settings.collation.build collator with
  | ok collation =>
    obtain ⟨scan, hok⟩ := exists_scan_of_nodup h hbuild
    rw [hok] at hscan
    cases hscan
  | error error =>
    obtain ⟨-, reason, -, rfl⟩ := CollationKind.build_eq_error_iff.1 hbuild
    unfold Digester.scan Scan.ofSettings at hscan
    rw [hbuild] at hscan
    cases hscan

end

/-- **One aggregation for each attribute.** Whatever is asked of a selection, and in whatever order,
it holds at most one aggregation for each attribute. A question that is answered with yes adds one
at the end, for the attribute that was asked for; any other leaves the selection as it is; and what
has been chosen is not touched again. So a scan can be set up with what a request has chosen. -/
theorem one_aggregation_for_each_attribute (p : ParameterSource) (asks : List Ask) :
    let s := ((Selection.start p).run asks).1
    (s.chosen.map Aggregation.attr).Nodup ∧ s.distinct.length = s.chosen.length ∧
    (∀ ask,
      (isYes (s.step ask).2 = true →
        ∃ a, a.attr = ask.attr ∧ (s.step ask).1.chosen = s.chosen ++ [a]) ∧
      (isYes (s.step ask).2 = false → (s.step ask).1 = s)) ∧
    (∀ more, s.chosen <+: (s.run more).1.chosen) ∧
    ∀ declared settings d, Digester.ofRequest p declared settings = .ok d → ∀ collator,
      (∀ attr, d.scan collator ≠ .error (.setup (.duplicateAggregation attr))) ∧
      ∀ collation, d.settings.collation.build collator = .ok collation →
        ∃ scan, d.scan collator = .ok scan := by
  intro s
  have hs : s.Exclusive := Selection.exclusive_run asks List.nodup_nil
  refine ⟨hs, by rw [hs.distinct_eq], fun ask => ?_, fun more => Selection.prefix_run more s, ?_⟩
  · rcases Selection.step_cases s ask with ⟨a, hattr, -, hstep⟩ | ⟨answer, hno, hstep⟩
    · rw [hstep]
      exact ⟨fun _ => ⟨a, hattr, rfl⟩, nofun⟩
    · rw [hstep]
      exact ⟨fun hyes => absurd (hno.symm.trans hyes) nofun, fun _ => rfl⟩
  · intro declared settings d hd collator
    unfold Digester.ofRequest at hd
    cases hadd : (Selection.addAll declared).run (.start p) with
    | error error s' => rw [hadd] at hd; cases hd
    | ok u s' =>
      rw [hadd] at hd
      cases hd
      have hnodup : (s'.chosen.map Aggregation.attr).Nodup := exclusive_of_addAll hadd
      exact ⟨scan_ne_duplicate_of_nodup hnodup, fun _ => exists_scan_of_nodup hnodup⟩

/-- One attribute is asked for by name, by prefixes and as a date, and has one aggregation; another
adds one behind it. A scan with the one aggregation is refused for want of a collator only. -/
theorem one_aggregation_for_each_attribute_asked_thrice :
    let p : Parameters :=
      ⟨[("a-offset", "2"), ("a-granularity", "by-name"), ("n-granularity", "daily")]⟩
    let s := ((Selection.start p).run [.byName "a", .textPrefix "a"]).1
    let d : Digester := ⟨⟨.unicode, .md5⟩, [⟨"a", .byName, none⟩]⟩
    (isYes (s.step (.date "n")).2 = true ∧
      ∃ a, a.attr = "n" ∧ (s.step (.date "n")).1.chosen = s.chosen ++ [a]) ∧
    (isYes (s.step (.date "a")).2 = false ∧ (s.step (.date "a")).1 = s) ∧
    Digester.ofRequest p [("a", .text), ("a", .date)] ⟨.unicode, .md5⟩ = .ok d ∧
      (∃ scan, d.scan (.ok Collation.byWeights) = .ok scan) ∧
      d.scan (.error "no data") = .error (.setup (.noCollator "no data")) ∧
      ∀ attr, d.scan (.error "no data") ≠ .error (.setup (.duplicateAggregation attr)) := by
  intro p s d
  obtain ⟨-, -, hstep, -, hrequest⟩ :=
    one_aggregation_for_each_attribute p [.byName "a", .textPrefix "a"]
  have hyes : isYes (s.step (.date "n")).2 = true := by decide
  have hno : isYes (s.step (.date "a")).2 = false := by decide
  have hd : Digester.ofRequest p [("a", .text), ("a", .date)] ⟨.unicode, .md5⟩ = .ok d := rfl
  have hscan := hrequest _ _ d hd
  exact ⟨⟨hyes, (hstep _).1 hyes⟩, ⟨hno, (hstep _).2 hno⟩, hd,
    (hscan (.ok Collation.byWeights)).2 (.unicode Collation.byWeights) rfl, rfl,
    (hscan (.error "no data")).1⟩

end BucketDigest.Request
