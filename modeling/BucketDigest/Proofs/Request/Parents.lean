import BucketDigest.Proofs.Request.RoundTrip
import BucketDigest.Proofs.Scan.Acceptance

/-!
# Scopes make no difference

An aggregation names the scope of its labels for those who show them. Forgetting it, which is what
`unscoped` does, changes neither what is refused nor any digest.

* `Scan.add_unscoped` is the step: it is the same to take an entry and then forget the scopes, and
  to forget them first. `Scan.addAll_unscoped` takes any number of entries, and
  `Digester.digest_unscoped` and `Digester.digestDocument_unscoped` follow.
* `AgreeButForParents.ofRequest_eq`: parameters that agree but for scopes ask for digesters that
  agree but for scopes. The induction is on the declared attributes.
* `parents_do_not_matter` puts both together.
-/
namespace BucketDigest

/-! ## Aggregations -/

namespace Aggregation

/-- The aggregation without its scope. -/
def unscoped (a : Aggregation) : Aggregation := { a with parent := none }

@[simp] theorem attr_unscoped (a : Aggregation) : a.unscoped.attr = a.attr := rfl

/-- No label depends on a scope. -/
theorem labelOf_unscoped (a : Aggregation) : a.unscoped.labelOf = a.labelOf := rfl

theorem duplicate?_unscoped (as : List Aggregation) :
    duplicate? (as.map unscoped) = duplicate? as := by
  have hattrs : (as.map unscoped).map attr = as.map attr := by
    rw [List.map_map]
    rfl
  unfold duplicate?
  rw [hattrs]

end Aggregation

theorem bucketOf_unscoped (as : List Aggregation) :
    bucketOf (as.map Aggregation.unscoped) = bucketOf as := by
  funext attributes
  simp only [bucketOf, List.foldlM_map, Aggregation.labelOf_unscoped, Aggregation.attr_unscoped]

/-! ## Scans -/

namespace Scan

/-- The scan without the scopes of its aggregations. -/
def unscoped (s : Scan) : Scan := { s with aggregations := s.aggregations.map Aggregation.unscoped }

@[simp] theorem digests_unscoped (s : Scan) : s.unscoped.digests = s.digests := rfl

/-- What is refused, and why, is the same without scopes, and so is the scan that has taken an
entry. -/
theorem add_unscoped (s : Scan) (e : Entry) : s.unscoped.add e = (s.add e).map unscoped := by
  unfold add
  cases hb : s.buckets with
  | closed digests =>
    have hb' : s.unscoped.buckets = .closed digests := hb
    rw [run_take_closed hb, run_take_closed hb']
    rfl
  | filling hashes =>
    have hb' : s.unscoped.buckets = .filling hashes := hb
    have horder : s.unscoped.checkOrder e = s.checkOrder e := rfl
    have hbucket : bucketOf s.unscoped.aggregations = bucketOf s.aggregations :=
      bucketOf_unscoped s.aggregations
    rw [run_take_filling hb, run_take_filling hb', horder, hbucket]
    cases s.checkOrder e with
    | error error => rfl
    | ok u => cases bucketOf s.aggregations e.attributes <;> rfl

theorem addAll_unscoped (s : Scan) (entries : List Entry) :
    s.unscoped.addAll entries = (s.addAll entries).map unscoped := by
  induction entries generalizing s with
  | nil => rfl
  | cons e rest ih =>
    rw [addAll_cons, addAll_cons, add_unscoped]
    cases s.add e with
    | error error => rfl
    | ok s' => exact ih s'

theorem ofSettings_unscoped (collator : Collator) (as : List Aggregation) (settings : Settings) :
    ofSettings collator (as.map Aggregation.unscoped) settings =
      (ofSettings collator as settings).map unscoped := by
  unfold ofSettings start
  rw [Aggregation.duplicate?_unscoped]
  cases settings.collation.build collator with
  | error error => rfl
  | ok collation => cases Aggregation.duplicate? as <;> rfl

end Scan

/-! ## Digesters -/

namespace Digester

/-- The digester without the scopes of its aggregations. -/
def unscoped (d : Digester) : Digester :=
  { d with aggregations := d.aggregations.map Aggregation.unscoped }

theorem scan_unscoped (d : Digester) (collator : Collator) :
    d.unscoped.scan collator = (d.scan collator).map Scan.unscoped := by
  unfold scan unscoped
  rw [Scan.ofSettings_unscoped]
  cases Scan.ofSettings collator d.aggregations d.settings <;> rfl

/-- Digests, and the reasons why there are none, are the same without scopes. -/
theorem digest_unscoped (d : Digester) (collator : Collator) (entries : List Entry) :
    d.unscoped.digest collator entries = d.digest collator entries := by
  unfold digest
  rw [scan_unscoped]
  cases d.scan collator with
  | error error => rfl
  | ok s =>
    simp only [Except.map, Scan.addAll_unscoped]
    cases s.addAll entries with
    | error error => rfl
    | ok s' => simp only [Scan.digests_unscoped]

theorem digestDocument_unscoped (d : Digester) (collator : Collator) (source : Json.Source)
    (sink : Wire.Sink) :
    d.unscoped.digestDocument collator source sink = d.digestDocument collator source sink := by
  simp only [digestDocument, digest_unscoped]

end Digester

/-! ## Requests -/

namespace Request

/-- Parameters have the same values, in the same order, for all names but those that end in
`-parent`. -/
def AgreeButForParents (p q : Parameters) : Prop :=
  ∀ name : String, ¬ "-parent".toList <:+ name.toList → p.all name = q.all name

/-- Only the names of scopes end like them. -/
theorem ParameterKind.eq_parent_of_suffix {kind : ParameterKind} {attr : String}
    (h : "-parent".toList <:+ (kind.nameFor attr).toList) : kind = .parent := by
  obtain ⟨front, hfront⟩ := h
  have hname : kind.nameFor attr = ParameterKind.parent.nameFor (String.ofList front) := by
    rw [← String.toList_inj, ← hfront]
    simp [nameFor, suffix]
  exact (nameFor_inj.1 hname).1

namespace ParameterSource

theorem ruleFor_congr {p q : ParameterSource} {attr : String}
    (hgranularity : p.granularity? attr = q.granularity? attr)
    (hoffset : p.all? (attr ++ "-offset") = q.all? (attr ++ "-offset")) (type : AttributeType) :
    p.ruleFor attr type = q.ruleFor attr type := by
  simp only [ruleFor, byNameRule, prefixRule, typedRule, quantizing?, hgranularity, hoffset]

/-- Without scopes, only the rules are read. -/
theorem map_unscoped_readings_cons (p : ParameterSource) (x : String × AttributeType)
    (rest : List (String × AttributeType)) :
    (p.readings (x :: rest)).map (List.map Aggregation.unscoped) =
      match p.ruleFor x.1 x.2 with
      | .error error => .error error
      | .ok none => (p.readings rest).map (List.map Aggregation.unscoped)
      | .ok (some rule) =>
        ((p.readings rest).map (List.map Aggregation.unscoped)).map (⟨x.1, rule, none⟩ :: ·) := by
  rw [readings_cons]
  unfold reading
  rcases p.ruleFor x.1 x.2 with error | _ | rule
  · rfl
  · rfl
  · cases p.readings rest <;> simp [Except.map, Aggregation.unscoped]

theorem map_unscoped_ofRequest (p : ParameterSource) (declared : List (String × AttributeType))
    (settings : Settings) :
    (Digester.ofRequest p declared settings).map Digester.unscoped =
      match (p.readings (firstDeclared declared)).map (List.map Aggregation.unscoped) with
      | .error error => .error (.request error)
      | .ok chosen => .ok ⟨settings, chosen⟩ := by
  rw [ofRequest_eq]
  cases p.readings (firstDeclared declared) <;> rfl

end ParameterSource

variable {p q : Parameters}

namespace AgreeButForParents

theorem all_eq (h : AgreeButForParents p q) {kind : ParameterKind} (hkind : kind ≠ .parent)
    (attr : String) : p.all (kind.nameFor attr) = q.all (kind.nameFor attr) :=
  h _ fun hsuffix => hkind (ParameterKind.eq_parent_of_suffix hsuffix)

/-- The same rule is asked for, or the same is wrong with what is asked for. -/
theorem ruleFor_eq (h : AgreeButForParents p q) (attr : String) (type : AttributeType) :
    p.source.ruleFor attr type = q.source.ruleFor attr type := by
  have hgranularity : p.all (attr ++ "-granularity") = q.all (attr ++ "-granularity") :=
    h.all_eq (show ParameterKind.granularity ≠ .parent from nofun) attr
  have hoffset : p.all (attr ++ "-offset") = q.all (attr ++ "-offset") :=
    h.all_eq (show ParameterKind.offset ≠ .parent from nofun) attr
  apply ParameterSource.ruleFor_congr
  · rw [Parameters.source_granularity?, Parameters.source_granularity?, hgranularity]
  · simp only [Parameters.source, Parameters.all?, hoffset]

theorem readings_eq (h : AgreeButForParents p q) (declared : List (String × AttributeType)) :
    (p.source.readings declared).map (List.map Aggregation.unscoped) =
      (q.source.readings declared).map (List.map Aggregation.unscoped) := by
  induction declared with
  | nil => rfl
  | cons x rest ih =>
    rw [ParameterSource.map_unscoped_readings_cons, ParameterSource.map_unscoped_readings_cons,
      h.ruleFor_eq, ih]

/-- Two requests ask for the same digester but for scopes, or are wrong for the same reason. -/
theorem ofRequest_eq (h : AgreeButForParents p q) (declared : List (String × AttributeType))
    (settings : Settings) :
    (Digester.ofRequest p declared settings).map Digester.unscoped =
      (Digester.ofRequest q declared settings).map Digester.unscoped := by
  rw [ParameterSource.map_unscoped_ofRequest, ParameterSource.map_unscoped_ofRequest,
    h.readings_eq]

end AgreeButForParents

/-- **Scopes make no difference.** Where parameters differ in scopes only, both ask for a digester
or both are refused for the same reason. In the first case the two digesters do the same with all
entries and with all documents, into whatever they write and whatever collator they are given. -/
theorem parents_do_not_matter (h : AgreeButForParents p q)
    (declared : List (String × AttributeType)) (settings : Settings) :
    (∃ error, Digester.ofRequest p declared settings = .error error ∧
      Digester.ofRequest q declared settings = .error error) ∨
    ∃ d d', Digester.ofRequest p declared settings = .ok d ∧
      Digester.ofRequest q declared settings = .ok d' ∧
      ∀ collator, (∀ entries, d.digest collator entries = d'.digest collator entries) ∧
        ∀ source sink,
          d.digestDocument collator source sink = d'.digestDocument collator source sink := by
  have hrequest := h.ofRequest_eq declared settings
  cases hp : Digester.ofRequest p declared settings with
  | error error =>
    cases hq : Digester.ofRequest q declared settings with
    | error error' =>
      rw [hp, hq] at hrequest
      cases hrequest
      exact .inl ⟨error, rfl, rfl⟩
    | ok d' => rw [hp, hq] at hrequest; cases hrequest
  | ok d =>
    cases hq : Digester.ofRequest q declared settings with
    | error error' => rw [hp, hq] at hrequest; cases hrequest
    | ok d' =>
      rw [hp, hq] at hrequest
      have hsame : d.unscoped = d'.unscoped := Except.ok.inj hrequest
      refine .inr ⟨d, d', rfl, rfl, fun collator => ⟨fun entries => ?_, fun source sink => ?_⟩⟩
      · rw [← d.digest_unscoped, hsame, d'.digest_unscoped]
      · rw [← d.digestDocument_unscoped, hsame, d'.digestDocument_unscoped]

/-- One request repeats a scope and leaves another one out, and its parameters are mixed in another
order, so that the two digesters differ. -/
theorem parents_do_not_matter_in_mixed_requests :
    let p : Parameters :=
      ⟨[("day-parent", "year"), ("day-granularity", "daily"), ("kind-offset", "2"),
        ("kind-parent", "day"), ("kind-offset", "5")]⟩
    let q : Parameters :=
      ⟨[("kind-offset", "2"), ("day-parent", ""), ("day-parent", "kind"), ("kind-offset", "5"),
        ("day-granularity", "daily")]⟩
    let declared : List (String × AttributeType) := [("day", .date), ("kind", .text)]
    let settings : Settings := ⟨.ascii, .md5⟩
    (AgreeButForParents p q ∧
      Digester.ofRequest p declared settings ≠ Digester.ofRequest q declared settings) ∧
    ((∃ error, Digester.ofRequest p declared settings = .error error ∧
      Digester.ofRequest q declared settings = .error error) ∨
    ∃ d d', Digester.ofRequest p declared settings = .ok d ∧
      Digester.ofRequest q declared settings = .ok d' ∧
      ∀ collator, (∀ entries, d.digest collator entries = d'.digest collator entries) ∧
        ∀ source sink,
          d.digestDocument collator source sink = d'.digestDocument collator source sink) := by
  intro p q declared settings
  have hagree : AgreeButForParents p q := by
    intro name hname
    have hday : "day-parent" ≠ name := by
      rintro rfl
      exact hname (by decide)
    have hkind : "kind-parent" ≠ name := by
      rintro rfl
      exact hname (by decide)
    by_cases hoffset : "kind-offset" = name
    · subst hoffset
      rfl
    · simp [p, q, Parameters.all, List.filter_cons, hday, hkind, hoffset]
  have hother :
      Digester.ofRequest p declared settings ≠ Digester.ofRequest q declared settings := by
    decide +kernel
  exact ⟨⟨hagree, hother⟩, parents_do_not_matter hagree declared settings⟩

end Request

end BucketDigest
