import BucketDigest.Proofs.Aggregation.Offsets
import BucketDigest.Proofs.Aggregation.Widths
import BucketDigest.Proofs.Request.Selection
import BucketDigest.Proofs.Text.Blank
import BucketDigest.Proofs.Traversal

/-!
# What is requested for one attribute

Parameters can be read without going through them step by step: `Parameters.Requests` says what is
requested for one attribute of a given type, by the values that the parameters named after it have.
`Parameters.requests_iff` says that for each attribute and type there is exactly one such thing, and
that it is what is chosen.
-/
namespace BucketDigest.Request

/-! ## What is requested for one attribute -/

/-- The number that a value of an offset parameter stands for: a positive one, whose numeral has
nothing but white space around it. -/
structure IsOffset (value : String) (n : UInt64) : Prop where
  pos : 0 < n
  spelled : ∃ before numeral after, value.toList = before ++ numeral ++ after ∧
    (∀ c ∈ before ++ after, Text.isBlank c = true) ∧ Numeral.Denotes numeral (n.toNat : Int)

/-- What a granularity stands for where an attribute has a type. -/
inductive AttributeType.Reads : AttributeType → String → Except SetupError Rule → Prop
  | date {type : AttributeType} (htype : type = .date ∨ type = .dateTime) (g : DateGranularity) :
      Reads type g.name (.ok (.date g))
  | noDate {type : AttributeType} (htype : type = .date ∨ type = .dateTime) {text : String}
      (h : ∀ g : DateGranularity, g.name ≠ text) :
      Reads type text (.error (.invalidGranularity text))
  | integer {text : String} {g : IntegerGranularity} {k : Nat} (hk : 1 ≤ k)
      (hwidth : g.width = 10 ^ k) (htext : IntegerGranularity.SpellsWidth text (10 ^ k)) :
      Reads .integer text (.ok (.integer g))
  | noNumeral {text : String} (h : ∀ n, ¬ IntegerGranularity.SpellsWidth text n) :
      Reads .integer text (.error (.invalidGranularity text))
  /-- The numeral may have a sign and leading zeros, which the error leaves out. -/
  | noWidth {text : String} {n : Int} (htext : IntegerGranularity.SpellsWidth text n)
      (h : ¬ ∃ k : Nat, 1 ≤ k ∧ n = 10 ^ k) :
      Reads .integer text (.error (.invalidGranularity (IntegerGranularity.widthText n)))
  | text (text : String) : Reads .text text (.error (.invalidGranularity text))

namespace Parameters

/-- The first granularity for an attribute asks for grouping by name. -/
def ByName (p : Parameters) (attr : String) : Prop :=
  (p.all (attr ++ "-granularity")).head? = some "by-name"

/-- What is requested for an attribute of a type: grouping by name before prefixes, and those before
granularities. -/
inductive RequestsRule (p : Parameters) (attr : String) (type : AttributeType) :
    Except RequestError (Option Rule) → Prop
  | byName (h : p.ByName attr) : p.RequestsRule attr type (.ok (some .byName))
  /-- The first value that is no offset. -/
  | invalidOffset {before after : List String} {value : String} (hname : ¬ p.ByName attr)
      (hsplit : p.all (attr ++ "-offset") = before ++ value :: after)
      (hbefore : ∀ v ∈ before, ∃ n, IsOffset v n) (hvalue : ∀ n, ¬ IsOffset value n) :
      p.RequestsRule attr type (.error (.invalidOffset attr value))
  /-- The first offset that is not above the one before it. -/
  | unordered {offsets : List UInt64} {offset : UInt64} (hname : ¬ p.ByName attr)
      (hoffsets : List.Forall₂ IsOffset (p.all (attr ++ "-offset")) offsets)
      (hoffence : IsFirstOffence offsets offset) :
      p.RequestsRule attr type (.error (.setup attr (.invalidOffset offset)))
  | textPrefix {offsets : Offsets} (hname : ¬ p.ByName attr)
      (hoffsets : List.Forall₂ IsOffset (p.all (attr ++ "-offset")) offsets.toList) :
      p.RequestsRule attr type (.ok (some (.textPrefix offsets)))
  | granularity {text : String} {rule : Rule} (hname : ¬ p.ByName attr)
      (hoffsets : p.all (attr ++ "-offset") = [])
      (htext : (p.all (attr ++ "-granularity")).head? = some text) (hne : text ≠ "")
      (hreads : type.Reads text (.ok rule)) : p.RequestsRule attr type (.ok (some rule))
  | invalidGranularity {text : String} {error : SetupError} (hname : ¬ p.ByName attr)
      (hoffsets : p.all (attr ++ "-offset") = [])
      (htext : (p.all (attr ++ "-granularity")).head? = some text) (hne : text ≠ "")
      (hreads : type.Reads text (.error error)) :
      p.RequestsRule attr type (.error (.setup attr error))
  | nothing (hoffsets : p.all (attr ++ "-offset") = [])
      (htext : ∀ text ∈ (p.all (attr ++ "-granularity")).head?, text = "") :
      p.RequestsRule attr type (.ok none)

/-- What is requested for an attribute of a type, with the first scope that is given for it. -/
def Requests (p : Parameters) (attr : String) (type : AttributeType)
    (outcome : Except RequestError (Option Aggregation)) : Prop :=
  ∃ requested, p.RequestsRule attr type requested ∧
    outcome = requested.map (Option.map fun rule =>
      ⟨attr, rule, (p.all (attr ++ "-parent")).head?⟩)

end Parameters

/-- The aggregation that is chosen for an attribute of a type, if one is. -/
def ParameterSource.reading (p : ParameterSource) (attr : String) (type : AttributeType) :
    Except RequestError (Option Aggregation) :=
  (p.ruleFor attr type).map (Option.map fun rule => ⟨attr, rule, p.parent? attr⟩)

/-! ## Reading and choosing agree -/

theorem isOffset_iff_uint64? {value : String} {n : UInt64} (hn : 0 < n) :
    IsOffset value n ↔ Numeral.uint64? (Text.trim value.toList) = some n := by
  rw [Numeral.uint64?_eq_some_iff_of_pos hn]
  constructor
  · intro h
    obtain ⟨before, numeral, after, hvalue, hblank, hnumeral⟩ := h.spelled
    obtain ⟨hbefore, hafter⟩ := List.forall_mem_append.1 hblank
    rw [hvalue, Text.trim_between hbefore hafter hnumeral.ne_nil (Text.isBlank_of_denotes hnumeral)]
    exact hnumeral
  · intro h
    obtain ⟨before, after, hblank, hvalue⟩ := Text.exists_blanks_append_trim value.toList
    exact ⟨hn, before, _, after, hvalue, hblank, h⟩

theorem offset_eq_ok_iff {attr value : String} {n : UInt64} :
    ParameterSource.offset attr value = .ok n ↔ IsOffset value n := by
  have hread : ParameterSource.offset attr value = .ok n ↔
      0 < n ∧ Numeral.uint64? (Text.trim value.toList) = some n := by
    unfold ParameterSource.offset
    cases Numeral.uint64? (Text.trim value.toList) with
    | none => simp
    | some m =>
      by_cases hm : m = 0
      · subst hm
        simp only [if_true, Option.some.injEq]
        exact ⟨nofun, fun h => absurd (h.2 ▸ h.1) (UInt64.lt_irrefl 0)⟩
      · simp only [hm, if_false, Except.ok.injEq, Option.some.injEq]
        exact ⟨fun h => ⟨h ▸ UInt64.pos_iff_ne_zero.2 hm, h⟩, fun h => h.2⟩
  rw [hread]
  constructor
  · intro h
    exact (isOffset_iff_uint64? h.1).2 h.2
  · intro h
    exact ⟨h.pos, (isOffset_iff_uint64? h.pos).1 h⟩

theorem offset_eq_error_iff {attr value : String} {error : RequestError} :
    ParameterSource.offset attr value = .error error ↔
      (∀ n, ¬ IsOffset value n) ∧ error = .invalidOffset attr value := by
  have hfail : ∀ error, ParameterSource.offset attr value = .error error →
      error = .invalidOffset attr value := by
    intro error h
    unfold ParameterSource.offset at h
    split at h
    · cases h; rfl
    · split at h
      · cases h; rfl
      · cases h
  simp only [← @offset_eq_ok_iff attr]
  cases h : ParameterSource.offset attr value with
  | ok n => simp
  | error error' => simp [hfail error' h, eq_comm]

theorem dateGranularity_ofName_eq {text : String} (h : ∀ g : DateGranularity, g.name ≠ text) :
    DateGranularity.ofName text = .error (.invalidGranularity text) := by
  have hyearly : text ≠ "yearly" := (h .yearly).symm
  have hmonthly : text ≠ "monthly" := (h .monthly).symm
  have hdaily : text ≠ "daily" := (h .daily).symm
  have hindividual : text ≠ "individual" := (h .individual).symm
  unfold DateGranularity.ofName
  rw [if_neg hyearly, if_neg hmonthly, if_neg hdaily, if_neg hindividual]

namespace AttributeType

theorem rule_of_date {type : AttributeType} (h : type = .date ∨ type = .dateTime) (text : String) :
    type.rule text = (DateGranularity.ofName text).map Rule.date := by
  rcases h with rfl | rfl <;> rfl

theorem Reads.rule_eq {type : AttributeType} {text : String} {outcome : Except SetupError Rule}
    (h : type.Reads text outcome) : type.rule text = outcome := by
  cases h with
  | date htype g => rw [rule_of_date htype, DateGranularity.ofName_name]; rfl
  | noDate htype h => rw [rule_of_date htype, dateGranularity_ofName_eq h]; rfl
  | @integer text g k hk hwidth htext =>
    have hg : IntegerGranularity.ofName text = .ok g :=
      IntegerGranularity.ofName_eq_ok_iff.2 (hwidth ▸ htext)
    rw [rule, hg]
    rfl
  | noNumeral h => rw [rule, IntegerGranularity.ofName_of_not_spellsWidth h]; rfl
  | noWidth htext h =>
    rw [rule, htext.ofName_eq, IntegerGranularity.ofWidth_eq_error]
    · rfl
    · rwa [IntegerGranularity.isBucketWidth_iff_of_fits htext.1]
  | text => rfl

theorem reads_rule (type : AttributeType) (text : String) : type.Reads text (type.rule text) := by
  have hdate : ∀ type : AttributeType, type = .date ∨ type = .dateTime →
      type.Reads text (type.rule text) := by
    intro type htype
    rw [rule_of_date htype]
    by_cases h : ∃ g : DateGranularity, g.name = text
    · obtain ⟨g, rfl⟩ := h
      rw [DateGranularity.ofName_name]
      exact .date htype g
    · rw [dateGranularity_ofName_eq (not_exists.1 h)]
      exact .noDate htype (not_exists.1 h)
  cases type with
  | date => exact hdate _ (.inl rfl)
  | dateTime => exact hdate _ (.inr rfl)
  | integer =>
    rw [rule]
    by_cases hspells : ∃ n, IntegerGranularity.SpellsWidth text n
    · obtain ⟨n, htext⟩ := hspells
      rw [htext.ofName_eq]
      by_cases hwidth : IsBucketWidth n
      · obtain ⟨k, hk, rfl⟩ := (IntegerGranularity.isBucketWidth_iff_of_fits htext.1).1 hwidth
        have hg : IntegerGranularity.ofWidth (10 ^ k) = .ok ⟨10 ^ k, hwidth⟩ :=
          IntegerGranularity.ofWidth_eq_ok_iff.2 ⟨hwidth, rfl⟩
        rw [hg]
        exact .integer hk rfl htext
      · rw [IntegerGranularity.ofWidth_eq_error hwidth]
        rw [IntegerGranularity.isBucketWidth_iff_of_fits htext.1] at hwidth
        exact .noWidth htext hwidth
    · rw [IntegerGranularity.ofName_of_not_spellsWidth (not_exists.1 hspells)]
      exact .noNumeral (not_exists.1 hspells)
  | text => exact .text text

end AttributeType

namespace Parameters

variable {p : Parameters} {attr : String} {type : AttributeType}

/-- The first value of a name is the first of its values. -/
theorem first?_eq_head? (p : Parameters) (name : String) : p.first? name = (p.all name).head? := by
  unfold first? all
  rw [List.head?_map, List.head?_filter]

theorem source_granularity? (p : Parameters) (attr : String) :
    p.source.granularity? attr = (p.all (attr ++ "-granularity")).head? :=
  p.first?_eq_head? _

theorem source_parent? (p : Parameters) (attr : String) :
    p.source.parent? attr = (p.all (attr ++ "-parent")).head? :=
  p.first?_eq_head? _

theorem byNameRule_of_byName (h : p.ByName attr) :
    p.source.byNameRule attr = some .byName := by
  unfold ParameterSource.byNameRule
  rw [source_granularity?]
  exact if_pos h

theorem byNameRule_of_not_byName (h : ¬ p.ByName attr) : p.source.byNameRule attr = none := by
  unfold ParameterSource.byNameRule
  rw [source_granularity?]
  exact if_neg h

theorem prefixRule_of_eq_nil (h : p.all (attr ++ "-offset") = []) :
    p.source.prefixRule attr = .ok none := by
  simp [ParameterSource.prefixRule, source, all?, h]

theorem prefixRule_of_ne_nil (h : p.all (attr ++ "-offset") ≠ []) :
    p.source.prefixRule attr =
      match (p.all (attr ++ "-offset")).mapM (ParameterSource.offset attr) with
      | .error error => .error error
      | .ok offsets => ParameterSource.forAttribute attr
          ((Offsets.ofList offsets).map fun o => some (.textPrefix o)) := by
  simp only [ParameterSource.prefixRule, source, all?, h, if_false]
  cases (p.all (attr ++ "-offset")).mapM (ParameterSource.offset attr) <;> rfl

theorem typedRule_of_granularity {text : String} (hname : ¬ p.ByName attr)
    (htext : (p.all (attr ++ "-granularity")).head? = some text) (hne : text ≠ "") :
    p.source.typedRule attr type =
      ParameterSource.forAttribute attr ((type.rule text).map some) := by
  have htoken : text ≠ Rule.byNameToken := fun h => hname (htext.trans (congrArg some h))
  unfold ParameterSource.typedRule ParameterSource.quantizing?
  rw [source_granularity?, htext, Option.filter_some, if_pos (by simp [hne, htoken])]

theorem typedRule_of_nothing
    (h : ∀ text ∈ (p.all (attr ++ "-granularity")).head?, text = "") :
    p.source.typedRule attr type = .ok none := by
  unfold ParameterSource.typedRule ParameterSource.quantizing?
  rw [source_granularity?]
  cases htext : (p.all (attr ++ "-granularity")).head? with
  | none => rfl
  | some text => rw [h text htext]; rfl

theorem mapM_offset_eq_ok_iff {values : List String} {offsets : List UInt64} :
    values.mapM (ParameterSource.offset attr) = .ok offsets ↔
      List.Forall₂ IsOffset values offsets := by
  simp only [mapM_eq_ok_iff, offset_eq_ok_iff]

theorem ruleFor_of_byName (h : p.ByName attr) :
    p.source.ruleFor attr type = .ok (some .byName) := by
  unfold ParameterSource.ruleFor
  rw [byNameRule_of_byName h]

theorem ruleFor_of_offsets (hname : ¬ p.ByName attr) (hne : p.all (attr ++ "-offset") ≠ []) :
    p.source.ruleFor attr type =
      match (p.all (attr ++ "-offset")).mapM (ParameterSource.offset attr) with
      | .error error => .error error
      | .ok offsets => ParameterSource.forAttribute attr
          ((Offsets.ofList offsets).map fun o => some (.textPrefix o)) := by
  unfold ParameterSource.ruleFor
  rw [byNameRule_of_not_byName hname, prefixRule_of_ne_nil hne]
  cases (p.all (attr ++ "-offset")).mapM (ParameterSource.offset attr) with
  | error error => rfl
  | ok offsets =>
    dsimp only
    cases Offsets.ofList offsets <;> rfl

theorem ruleFor_of_no_offsets (hname : ¬ p.ByName attr) (h : p.all (attr ++ "-offset") = []) :
    p.source.ruleFor attr type = p.source.typedRule attr type := by
  unfold ParameterSource.ruleFor
  rw [byNameRule_of_not_byName hname, prefixRule_of_eq_nil h]

theorem pos_of_offsets {values : List String} {offsets : List UInt64}
    (h : List.Forall₂ IsOffset values offsets) : ∀ n ∈ offsets, 0 < n := by
  induction h with
  | nil => simp
  | cons hoffset _ ih =>
    exact List.forall_mem_cons.2 ⟨hoffset.pos, ih⟩

theorem ne_nil_of_offsets {values : List String} {offsets : List UInt64}
    (h : List.Forall₂ IsOffset values offsets) (hne : offsets ≠ []) : values ≠ [] := by
  rintro rfl
  exact hne (List.forall₂_nil_left_iff.1 h)

/-- What is requested is what is chosen. -/
theorem RequestsRule.ruleFor_eq {requested : Except RequestError (Option Rule)}
    (h : p.RequestsRule attr type requested) : p.source.ruleFor attr type = requested := by
  cases h with
  | byName h => exact ruleFor_of_byName h
  | @invalidOffset before after value hname hsplit hbefore hvalue =>
    have hne : p.all (attr ++ "-offset") ≠ [] := by rw [hsplit]; simp
    have hmapM : (p.all (attr ++ "-offset")).mapM (ParameterSource.offset attr) =
        .error (.invalidOffset attr value) := by
      refine mapM_eq_error_iff.2 ⟨before, value, after, hsplit, fun v hv => ?_, ?_⟩
      · obtain ⟨n, hn⟩ := hbefore v hv
        exact ⟨n, offset_eq_ok_iff.2 hn⟩
      · exact offset_eq_error_iff.2 ⟨hvalue, rfl⟩
    rw [ruleFor_of_offsets hname hne, hmapM]
  | @unordered offsets offset hname hoffsets hoffence =>
    have hne : offsets ≠ [] := hoffence.ne_nil
    have hlist : Offsets.ofList offsets = .error (.invalidOffset offset) :=
      (Offsets.ofList_eq_error_iff_of_pos hne (pos_of_offsets hoffsets)).2 ⟨offset, hoffence, rfl⟩
    rw [ruleFor_of_offsets hname (ne_nil_of_offsets hoffsets hne),
      mapM_offset_eq_ok_iff.2 hoffsets]
    simp only [hlist]
    rfl
  | @textPrefix offsets hname hoffsets =>
    rw [ruleFor_of_offsets hname (ne_nil_of_offsets hoffsets offsets.nonempty),
      mapM_offset_eq_ok_iff.2 hoffsets]
    simp only [Offsets.ofList_eq_ok_iff.2 rfl]
    rfl
  | granularity hname hoffsets htext hne hreads =>
    rw [ruleFor_of_no_offsets hname hoffsets, typedRule_of_granularity hname htext hne,
      hreads.rule_eq]
    rfl
  | invalidGranularity hname hoffsets htext hne hreads =>
    rw [ruleFor_of_no_offsets hname hoffsets, typedRule_of_granularity hname htext hne,
      hreads.rule_eq]
    rfl
  | nothing hoffsets htext =>
    have hname : ¬ p.ByName attr := fun h => absurd (htext _ h) (by decide)
    rw [ruleFor_of_no_offsets hname hoffsets]
    exact typedRule_of_nothing htext

/-- What is chosen is requested. -/
theorem requestsRule_ruleFor (p : Parameters) (attr : String) (type : AttributeType) :
    p.RequestsRule attr type (p.source.ruleFor attr type) := by
  by_cases hname : p.ByName attr
  · rw [ruleFor_of_byName hname]
    exact .byName hname
  by_cases hne : p.all (attr ++ "-offset") = []
  · rw [ruleFor_of_no_offsets hname hne]
    by_cases hnothing : ∀ text ∈ (p.all (attr ++ "-granularity")).head?, text = ""
    · rw [typedRule_of_nothing hnothing]
      exact .nothing hne hnothing
    · push Not at hnothing
      obtain ⟨text, htext, htextne⟩ := hnothing
      rw [typedRule_of_granularity hname htext htextne]
      have hreads := type.reads_rule text
      cases hrule : type.rule text with
      | ok rule => exact .granularity hname hne htext htextne (hrule ▸ hreads)
      | error error => exact .invalidGranularity hname hne htext htextne (hrule ▸ hreads)
  · rw [ruleFor_of_offsets hname hne]
    cases hmapM : (p.all (attr ++ "-offset")).mapM (ParameterSource.offset attr) with
    | error error =>
      obtain ⟨before, value, after, hsplit, hbefore, hvalue⟩ := mapM_eq_error_iff.1 hmapM
      obtain ⟨hnot, rfl⟩ := offset_eq_error_iff.1 hvalue
      refine .invalidOffset hname hsplit (fun v hv => ?_) hnot
      obtain ⟨n, hn⟩ := hbefore v hv
      exact ⟨n, offset_eq_ok_iff.1 hn⟩
    | ok offsets =>
      have hoffsets := mapM_offset_eq_ok_iff.1 hmapM
      have hoffsetsne : offsets ≠ [] := by
        rintro rfl
        exact hne (List.forall₂_nil_right_iff.1 hoffsets)
      cases hlist : Offsets.ofList offsets with
      | ok o =>
        obtain rfl := Offsets.ofList_eq_ok_iff.1 hlist
        simp only [hlist]
        exact .textPrefix hname hoffsets
      | error error =>
        obtain ⟨offset, hoffence, rfl⟩ :=
          (Offsets.ofList_eq_error_iff_of_pos hoffsetsne (pos_of_offsets hoffsets)).1 hlist
        simp only [hlist]
        exact .unordered hname hoffsets hoffence

/-- What is requested for an attribute is what is chosen for it. -/
theorem requests_iff {outcome : Except RequestError (Option Aggregation)} :
    p.Requests attr type outcome ↔ p.source.reading attr type = outcome := by
  unfold Requests ParameterSource.reading
  rw [source_parent?]
  constructor
  · intro h
    obtain ⟨requested, hrule, rfl⟩ := h
    rw [hrule.ruleFor_eq]
  · intro h
    exact ⟨_, requestsRule_ruleFor p attr type, h.symm⟩

end Parameters

end BucketDigest.Request
