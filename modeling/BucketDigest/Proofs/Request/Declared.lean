import Mathlib.Data.List.ReduceOption
import BucketDigest.Proofs.Request.Reading

/-!
# What is requested for declared attributes

A selection goes through declared attributes one by one and keeps what it has chosen.

* `Selection.chosenBy_addAll`: that comes to reading each attribute with the type with which it is
  declared first. The induction is on the declared attributes, and holds because an attribute for
  which nothing is asked has nothing asked for it with any other type
  (`ParameterSource.reading_eq_ok_none`).
* `request_is_read_by_attribute` says the same of the digester that a request asks for.
-/
namespace BucketDigest.Request

/-! ## Readings -/

namespace ParameterSource

variable {p : ParameterSource} {attr : String} {type : AttributeType}

/-- The aggregations that are chosen for some attributes. -/
def readings (p : ParameterSource) (declared : List (String × AttributeType)) :
    Except RequestError (List Aggregation) :=
  (declared.mapM fun x => p.reading x.1 x.2).map List.reduceOption

theorem attr_of_reading {a : Aggregation} (h : p.reading attr type = .ok (some a)) :
    a.attr = attr := by
  unfold reading at h
  rcases hrule : p.ruleFor attr type with error | _ | rule
  · rw [hrule] at h; cases h
  · rw [hrule] at h; cases h
  · rw [hrule] at h; cases h; rfl

theorem typedRule_eq_ok_none_iff :
    p.typedRule attr type = .ok none ↔ p.quantizing? attr = none := by
  unfold typedRule
  cases p.quantizing? attr with
  | none => simp
  | some text =>
    dsimp only
    cases type.rule text <;> simp [forAttribute, Except.map]

/-- Nothing is asked for an attribute of one type only if nothing is asked for it at all. -/
theorem reading_eq_ok_none (h : p.reading attr type = .ok none) (type' : AttributeType) :
    p.reading attr type' = .ok none := by
  have hrule : p.ruleFor attr type = .ok none := by
    unfold reading at h
    rcases hrule : p.ruleFor attr type with error | _ | rule
    · rw [hrule] at h; cases h
    · rfl
    · rw [hrule] at h; cases h
  suffices p.ruleFor attr type' = .ok none by unfold reading; rw [this]; rfl
  unfold ruleFor at hrule ⊢
  cases hname : p.byNameRule attr with
  | some rule => rw [hname] at hrule; cases hrule
  | none =>
    rw [hname] at hrule
    rcases hoffsets : p.prefixRule attr with error | _ | rule
    · rw [hoffsets] at hrule; cases hrule
    · rw [hoffsets] at hrule
      exact typedRule_eq_ok_none_iff.2 (typedRule_eq_ok_none_iff.1 hrule)
    · rw [hoffsets] at hrule; cases hrule

theorem readings_cons (x : String × AttributeType) (rest : List (String × AttributeType)) :
    p.readings (x :: rest) =
      match p.reading x.1 x.2 with
      | .error error => .error error
      | .ok none => p.readings rest
      | .ok (some a) => (p.readings rest).map (a :: ·) := by
  unfold readings
  rw [mapM_cons_eq]
  rcases p.reading x.1 x.2 with error | _ | a
  · rfl
  · dsimp only
    cases rest.mapM fun x => p.reading x.1 x.2 <;> rfl
  · dsimp only
    cases rest.mapM fun x => p.reading x.1 x.2 <;> rfl

/-- Attributes for which nothing is asked can be left out. -/
theorem readings_filter {declared : List (String × AttributeType)}
    {keep : String × AttributeType → Bool}
    (h : ∀ x ∈ declared, keep x = false → p.reading x.1 x.2 = .ok none) :
    p.readings (declared.filter keep) = p.readings declared := by
  induction declared with
  | nil => rfl
  | cons x rest ih =>
    obtain ⟨hx, hrest⟩ := List.forall_mem_cons.1 h
    rw [List.filter_cons, readings_cons x rest]
    split
    · rw [readings_cons, ih hrest]
    · next hkeep => rw [hx (by simpa using hkeep), ih hrest]

theorem readings_eq_ok_iff {declared : List (String × AttributeType)} {chosen : List Aggregation} :
    p.readings declared = .ok chosen ↔
      ∃ found, List.Forall₂ (fun x a? => p.reading x.1 x.2 = .ok a?) declared found ∧
        chosen = found.reduceOption := by
  unfold readings
  constructor
  · intro h
    cases hfound : declared.mapM fun x => p.reading x.1 x.2 with
    | error error => rw [hfound] at h; cases h
    | ok found => rw [hfound] at h; cases h; exact ⟨found, mapM_eq_ok_iff.1 hfound, rfl⟩
  · intro h
    obtain ⟨found, hfound, rfl⟩ := h
    rw [mapM_eq_ok_iff.2 hfound]
    rfl

theorem readings_eq_error_iff {declared : List (String × AttributeType)} {error : RequestError} :
    p.readings declared = .error error ↔
      ∃ before x after, declared = before ++ x :: after ∧
        (∀ y ∈ before, ∃ a?, p.reading y.1 y.2 = .ok a?) ∧ p.reading x.1 x.2 = .error error := by
  rw [← mapM_eq_error_iff (f := fun x : String × AttributeType => p.reading x.1 x.2)]
  unfold readings
  cases declared.mapM fun x => p.reading x.1 x.2 <;> simp [Except.map]

end ParameterSource

/-- Each attribute with the type with which it is declared first, in the order of these
declarations. -/
def firstDeclared : List (String × AttributeType) → List (String × AttributeType)
  | [] => []
  | x :: rest => x :: (firstDeclared rest).filter fun y => y.1 ≠ x.1

namespace Selection

theorem run_add_eq_reading (s : Selection) (attr : String) (type : AttributeType) :
    (add attr type).run s =
      if s.governs attr then .ok .alreadyAggregated s
      else
        match s.parameters.reading attr type with
        | .error error => .error error s
        | .ok none => .ok .notRequested s
        | .ok (some a) => .ok (.added a) (s.extend a) := by
  rw [run_add, run_choose]
  unfold ParameterSource.reading
  rcases s.parameters.ruleFor attr type with error | _ | rule <;> rfl

theorem parameters_extend (s : Selection) (a : Aggregation) :
    (s.extend a).parameters = s.parameters := rfl

theorem governs_extend (s : Selection) (a : Aggregation) (attr : String) :
    (s.extend a).governs attr = (s.governs attr || decide (a.attr = attr)) := by
  simp [governs, extend]

/-- What has an aggregation already is not among the rest. -/
theorem filter_not_governs {s : Selection} {attr : String} (h : s.governs attr = true)
    (declared : List (String × AttributeType)) :
    ((declared.filter fun y => y.1 ≠ attr).filter fun y => !s.governs y.1) =
      declared.filter fun y => !s.governs y.1 := by
  rw [List.filter_filter]
  refine List.filter_congr fun y _ => ?_
  by_cases hy : y.1 = attr
  · simp [hy, h]
  · simp [hy]

theorem filter_not_governs_extend (s : Selection) (a : Aggregation)
    (declared : List (String × AttributeType)) :
    ((declared.filter fun y => y.1 ≠ a.attr).filter fun y => !s.governs y.1) =
      declared.filter fun y => !(s.extend a).governs y.1 := by
  rw [List.filter_filter]
  refine List.filter_congr fun y _ => ?_
  rw [governs_extend, Bool.not_or]
  simp [eq_comm]

/-- What is chosen in the end. -/
def chosenBy (work : Work Unit) (s : Selection) : Except RequestError (List Aggregation) :=
  match work.run s with
  | .ok _ s => .ok s.chosen
  | .error error _ => .error error

theorem chosenBy_addAll_cons (s : Selection) (attr : String) (type : AttributeType)
    (rest : List (String × AttributeType)) :
    chosenBy (addAll ((attr, type) :: rest)) s =
      match (add attr type).run s with
      | .error error _ => .error error
      | .ok _ s => chosenBy (addAll rest) s := by
  simp only [chosenBy, addAll, EStateM.run_bind]
  cases (add attr type).run s <;> rfl

/-- Going through declared attributes is reading those that have no aggregation yet, each with its
first type. -/
theorem chosenBy_addAll (s : Selection) (declared : List (String × AttributeType)) :
    chosenBy (addAll declared) s =
      (s.parameters.readings ((firstDeclared declared).filter fun x => !s.governs x.1)).map
        (s.chosen ++ ·) := by
  induction declared generalizing s with
  | nil =>
    show Except.ok s.chosen = Except.ok (s.chosen ++ [])
    rw [List.append_nil]
  | cons x rest ih =>
    obtain ⟨attr, type⟩ := x
    rw [chosenBy_addAll_cons, run_add_eq_reading, firstDeclared, List.filter_cons]
    cases hgoverns : s.governs attr with
    | true =>
      rw [filter_not_governs hgoverns]
      exact ih s
    | false =>
      simp only [Bool.not_false, Bool.false_eq_true, if_true, if_false,
        ParameterSource.readings_cons]
      rcases hread : s.parameters.reading attr type with error | _ | a
      · rfl
      · -- Nothing is asked for the attribute with another type either.
        rw [List.filter_comm, ParameterSource.readings_filter]
        · exact ih s
        · intro y _ hdropped
          have hy : y.1 = attr := by simpa using hdropped
          rw [hy]
          exact ParameterSource.reading_eq_ok_none hread y.2
      · obtain rfl := ParameterSource.attr_of_reading hread
        dsimp only
        rw [filter_not_governs_extend, ih (s.extend a), parameters_extend]
        cases s.parameters.readings _ with
        | error error => rfl
        | ok chosen =>
          show Except.ok (s.chosen ++ [a] ++ chosen) = Except.ok (s.chosen ++ a :: chosen)
          rw [List.append_assoc, List.singleton_append]

end Selection

/-- A request chooses what is read for each attribute, declared first. -/
theorem ofRequest_eq (p : ParameterSource) (declared : List (String × AttributeType))
    (settings : Settings) :
    Digester.ofRequest p declared settings =
      match p.readings (firstDeclared declared) with
      | .error error => .error (.request error)
      | .ok chosen => .ok ⟨settings, chosen⟩ := by
  have hchosen : Selection.chosenBy (Selection.addAll declared) (.start p) =
      p.readings (firstDeclared declared) := by
    have hall : ((firstDeclared declared).filter fun x => !(Selection.start p).governs x.1) =
        firstDeclared declared := List.filter_eq_self.2 fun _ _ => rfl
    rw [Selection.chosenBy_addAll, hall]
    show (p.readings _).map ([] ++ ·) = p.readings _
    cases p.readings (firstDeclared declared) <;> rfl
  rw [← hchosen]
  unfold Digester.ofRequest Selection.chosenBy
  cases (Selection.addAll declared).run (.start p) <;> rfl

theorem ofRequest_eq_ok_iff {p : ParameterSource} {declared : List (String × AttributeType)}
    {settings : Settings} {d : Digester} :
    Digester.ofRequest p declared settings = .ok d ↔
      d.settings = settings ∧ p.readings (firstDeclared declared) = .ok d.aggregations := by
  rw [ofRequest_eq]
  cases p.readings (firstDeclared declared) with
  | error error => simp
  | ok chosen =>
    constructor
    · intro h
      cases h
      exact ⟨rfl, rfl⟩
    · intro h
      obtain ⟨rfl, hchosen⟩ := h
      cases hchosen
      rfl

theorem ofRequest_eq_error_iff {p : ParameterSource} {declared : List (String × AttributeType)}
    {settings : Settings} {error : DigestError} :
    Digester.ofRequest p declared settings = .error error ↔
      ∃ reason, p.readings (firstDeclared declared) = .error reason ∧ error = .request reason := by
  rw [ofRequest_eq]
  cases p.readings (firstDeclared declared) <;> simp [eq_comm]

/-! ## What a request asks for -/

/-- **Requests are read attribute by attribute.** For an attribute of a type, parameters request
exactly one thing. The digester that they ask for has the aggregations that are requested for the
declared attributes, each with the type with which it is declared first, in the order of these
declarations; and there is none where the request for one of them is wrong, for the reason that is
wrong with the first of these. -/
theorem request_is_read_by_attribute (p : Parameters) (declared : List (String × AttributeType))
    (settings : Settings) :
    (∀ attr type, ∃! outcome, p.Requests attr type outcome) ∧
    (∀ d, Digester.ofRequest p declared settings = .ok d ↔
      d.settings = settings ∧
      ∃ found,
        List.Forall₂ (fun x a? => p.Requests x.1 x.2 (.ok a?)) (firstDeclared declared) found ∧
        d.aggregations = found.reduceOption) ∧
    ∀ error, Digester.ofRequest p declared settings = .error error ↔
      ∃ reason, (∃ before x after, firstDeclared declared = before ++ x :: after ∧
        (∀ y ∈ before, ∃ a?, p.Requests y.1 y.2 (.ok a?)) ∧
        p.Requests x.1 x.2 (.error reason)) ∧ error = .request reason := by
  simp only [Parameters.requests_iff]
  refine ⟨fun attr type => ⟨_, rfl, fun outcome h => h.symm⟩, fun d => ?_, fun error => ?_⟩
  · rw [ofRequest_eq_ok_iff, ParameterSource.readings_eq_ok_iff]
  · simp only [ofRequest_eq_error_iff, ParameterSource.readings_eq_error_iff]

/-- The second declaration of an attribute does not count, and the offsets of one attribute are not
those of another whose name goes on with `-offset`. -/
example :
    let p : Parameters :=
      ⟨[("a-offset-granularity", "daily"), ("a-offset", "2"), ("a-granularity", "daily"),
        ("a-offset", " 5 "), ("b-granularity", ""), ("a-parent", "x"), ("a-parent", "y")]⟩
    let found : List Aggregation :=
      [⟨"a-offset", .date .daily, none⟩,
        ⟨"a", .textPrefix ⟨[2, 5], by decide, by decide⟩, some "x"⟩]
    Digester.ofRequest p [("b", .text), ("a-offset", .date), ("a", .date), ("a-offset", .text)]
      ⟨.ascii, .md5⟩ = .ok ⟨⟨.ascii, .md5⟩, found⟩ := rfl

end BucketDigest.Request
