import BucketDigest.Proofs.Request.Declared

/-!
# Aggregations that are asked for

Whatever aggregations two participants want to agree on, parameters can ask for them.
`Aggregation.parameters` lists the parameters for one aggregation, and `Asks` is the condition on
parameters that ask for several at once, in any order.

* `nameFor_inj`: no two parameters have the same name, whatever the attributes are called.
* `Asks.all_eq`: so the values of a name are those of one aggregation, in their order.
* `Asks.requests`: and these are read as that aggregation.
* `aggregations_can_be_requested` puts them together again, in the order of the declarations.
-/
namespace BucketDigest

namespace Request

/-! ## Values -/

/-- An offset is read as it was written. -/
theorem isOffset_countText {n : UInt64} (hn : 0 < n) : IsOffset (Numeral.countText n.toNat) n := by
  refine ⟨hn, [], Nat.toDigits 10 n.toNat, [], ?_, List.forall_mem_nil _, ?_⟩
  · rw [Numeral.countText, String.toList_ofList, List.nil_append, List.append_nil]
  · exact Numeral.denotes_decimal n.toNat

theorem isOffset_of_offsets (o : Offsets) :
    List.Forall₂ IsOffset (o.toList.map fun n => Numeral.countText n.toNat) o.toList := by
  have hpos := (List.pairwise_cons.1 o.ascending).1
  rw [List.forall₂_map_left_iff, List.forall₂_same]
  exact fun n hn => isOffset_countText (hpos n hn)

/-! ## Names -/

/-- What a parameter says of an attribute. -/
inductive ParameterKind
  | granularity
  | offset
  | parent
  deriving DecidableEq

namespace ParameterKind

/-- The end of the names of such parameters. -/
def suffix : ParameterKind → String
  | .granularity => "-granularity"
  | .offset => "-offset"
  | .parent => "-parent"

/-- The name of the parameter for an attribute. -/
def nameFor (kind : ParameterKind) (attr : String) : String := attr ++ kind.suffix

/-- The last two characters of a name tell the kind. -/
theorem take_reverse_nameFor (kind : ParameterKind) (attr : String) :
    (kind.nameFor attr).toList.reverse.take 2 = kind.suffix.toList.reverse.take 2 := by
  have hlen : 2 ≤ kind.suffix.toList.reverse.length := by cases kind <;> decide
  unfold nameFor
  rw [String.toList_append, List.reverse_append, List.take_append_of_le_length hlen]

theorem eq_of_take_reverse_suffix {kind kind' : ParameterKind} :
    kind.suffix.toList.reverse.take 2 = kind'.suffix.toList.reverse.take 2 → kind = kind' := by
  cases kind <;> cases kind' <;> decide

/-- No two parameters have the same name. -/
theorem nameFor_inj {kind kind' : ParameterKind} {attr attr' : String} :
    kind.nameFor attr = kind'.nameFor attr' ↔ kind = kind' ∧ attr = attr' := by
  constructor
  · intro h
    have hend := congrArg (fun name : String => name.toList.reverse.take 2) h
    simp only [take_reverse_nameFor] at hend
    obtain rfl := eq_of_take_reverse_suffix hend
    exact ⟨rfl, (String.append_left_inj _).1 h⟩
  · rintro ⟨rfl, rfl⟩
    rfl

end ParameterKind

end Request

/-! ## Parameters that ask for aggregations -/

open Request

namespace Aggregation

/-- The values that ask for an aggregation. -/
def values (a : Aggregation) : ParameterKind → List String
  | .granularity =>
    match a.rule with
    | .date g => [g.name]
    | .integer g => [g.name]
    | .byName => [Rule.byNameToken]
    | .textPrefix _ => []
  | .offset =>
    match a.rule with
    | .textPrefix o => o.toList.map fun n => Numeral.countText n.toNat
    | _ => []
  | .parent => a.parent.toList

theorem length_values_le (a : Aggregation) {kind : ParameterKind} (h : kind ≠ .offset) :
    (a.values kind).length ≤ 1 := by
  obtain ⟨attr, rule, parent⟩ := a
  cases kind with
  | granularity => cases rule <;> simp [values]
  | offset => exact absurd rfl h
  | parent => cases parent <;> simp [values]

/-- The parameters of a kind that ask for an aggregation. -/
def pairs (a : Aggregation) (kind : ParameterKind) : List (String × String) :=
  (a.values kind).map fun value => (kind.nameFor a.attr, value)

/-- The parameters that ask for an aggregation. -/
def parameters (a : Aggregation) : List (String × String) :=
  [ParameterKind.granularity, .offset, .parent].flatMap a.pairs

theorem filter_pairs (a : Aggregation) (kind kind' : ParameterKind) (attr : String) :
    ((a.pairs kind').filter fun x => x.1 = kind.nameFor attr) =
      if kind' = kind ∧ a.attr = attr then a.pairs kind else [] := by
  unfold pairs
  rw [List.filter_map]
  split
  · next h =>
    obtain ⟨rfl, rfl⟩ := h
    rw [List.filter_eq_self.2]
    simp
  · next h =>
    rw [List.filter_eq_nil_iff.2, List.map_nil]
    simp [ParameterKind.nameFor_inj, h]

/-- Of the parameters for an aggregation, those with the name of its kind are those of the kind. -/
theorem filter_parameters (a : Aggregation) (kind : ParameterKind) (attr : String) :
    (a.parameters.filter fun x => x.1 = kind.nameFor attr) =
      if a.attr = attr then a.pairs kind else [] := by
  unfold parameters
  simp only [List.flatMap_cons, List.flatMap_nil, List.filter_append, filter_pairs]
  by_cases h : a.attr = attr
  · cases kind <;> simp [h]
  · simp [h]

/-- Where no attribute has two aggregations, the parameters of a name are those for one. -/
theorem filter_flatMap_parameters {as : List Aggregation} (hattrs : (as.map attr).Nodup)
    {a : Aggregation} (ha : a ∈ as) (kind : ParameterKind) :
    ((as.flatMap parameters).filter fun x => x.1 = kind.nameFor a.attr) = a.pairs kind := by
  have hnone : ∀ bs : List Aggregation, a.attr ∉ bs.map attr →
      ((bs.flatMap parameters).filter fun x => x.1 = kind.nameFor a.attr) = [] := by
    intro bs hbs
    rw [List.filter_flatMap, List.flatMap_eq_nil_iff]
    intro b hb
    rw [filter_parameters, if_neg]
    exact fun h => hbs (h ▸ List.mem_map_of_mem hb)
  induction as with
  | nil => cases ha
  | cons b rest ih =>
    obtain ⟨hb, hrest⟩ := List.nodup_cons.1 hattrs
    rw [List.flatMap_cons, List.filter_append, filter_parameters]
    rcases List.mem_cons.1 ha with rfl | ha
    · rw [if_pos rfl, hnone rest hb, List.append_nil]
    · have hne : b.attr ≠ a.attr := fun h => hb (h ▸ List.mem_map_of_mem ha)
      rw [if_neg hne, List.nil_append, ih hrest ha]

end Aggregation

namespace Request

/-- Parameters ask for some aggregations and for nothing else. They are mixed in any order in which
the offsets for each attribute stay in their order. -/
structure Asks (pairs : List (String × String)) (as : List Aggregation) : Prop where
  perm : pairs.Perm (as.flatMap Aggregation.parameters)
  offsets : ∀ a ∈ as, (a.pairs .offset).Sublist pairs

/-- A rule can be asked for where an attribute has a type: granularities fit the type, and names and
prefixes are for all. -/
def Suits : Rule → AttributeType → Prop
  | .date _, type => type = .date ∨ type = .dateTime
  | .integer _, type => type = .integer
  | .byName, _ => True
  | .textPrefix _, _ => True

variable {pairs : List (String × String)} {as : List Aggregation}

/-- A list of one element at most has no other order. -/
theorem eq_of_perm_of_length_le {α : Type} {l l' : List α} (h : l.Perm l') (hlen : l'.length ≤ 1) :
    l = l' := by
  rcases l' with _ | ⟨a, _ | ⟨b, rest⟩⟩
  · exact h.eq_nil
  · exact List.perm_singleton.1 h
  · simp at hlen

/-- The parameters of a name are those for one aggregation, in their order. -/
theorem Asks.filter_eq (h : Asks pairs as) (hattrs : (as.map Aggregation.attr).Nodup)
    {a : Aggregation} (ha : a ∈ as) (kind : ParameterKind) :
    (pairs.filter fun x => x.1 = kind.nameFor a.attr) = a.pairs kind := by
  have hperm : (pairs.filter fun x => x.1 = kind.nameFor a.attr).Perm (a.pairs kind) :=
    Aggregation.filter_flatMap_parameters hattrs ha kind ▸ h.perm.filter _
  by_cases hkind : kind = .offset
  · subst hkind
    have hsub := (h.offsets a ha).filter fun x => x.1 = ParameterKind.offset.nameFor a.attr
    rw [Aggregation.filter_pairs, if_pos ⟨rfl, rfl⟩] at hsub
    exact (hsub.eq_of_length hperm.length_eq.symm).symm
  · apply eq_of_perm_of_length_le hperm
    rw [Aggregation.pairs, List.length_map]
    exact a.length_values_le hkind

/-- The values of a name are those for one aggregation, in their order. -/
theorem Asks.all_eq (h : Asks pairs as) (hattrs : (as.map Aggregation.attr).Nodup)
    {a : Aggregation} (ha : a ∈ as) (kind : ParameterKind) :
    Parameters.all ⟨pairs⟩ (kind.nameFor a.attr) = a.values kind := by
  unfold Parameters.all
  rw [h.filter_eq hattrs ha kind, Aggregation.pairs, List.map_map]
  exact List.map_id _

/-- What stands for a rule of some type is neither empty nor the token of another rule. -/
theorem text_ne_of_reads {type : AttributeType} {text : String} {rule : Rule}
    (h : type.Reads text (.ok rule)) : text ≠ "" ∧ text ≠ Rule.byNameToken := by
  have hrule := h.rule_eq
  constructor
  · rintro rfl
    cases type <;> cases hrule
  · rintro rfl
    cases type <;> cases hrule

theorem requestsRule_of_reads {p : Parameters} {attr text : String} {type : AttributeType}
    {rule : Rule} (hgranularity : p.all (attr ++ "-granularity") = [text])
    (hoffset : p.all (attr ++ "-offset") = []) (h : type.Reads text (.ok rule)) :
    p.RequestsRule attr type (.ok (some rule)) := by
  obtain ⟨hne, htoken⟩ := text_ne_of_reads h
  have htext : (p.all (attr ++ "-granularity")).head? = some text := by rw [hgranularity]; rfl
  have hname : ¬ p.ByName attr := fun hby => htoken (Option.some.inj (htext.symm.trans hby))
  exact .granularity hname hoffset htext hne h

/-- What is asked for an attribute is its aggregation. -/
theorem Asks.requests (h : Asks pairs as) (hattrs : (as.map Aggregation.attr).Nodup)
    {a : Aggregation} (ha : a ∈ as) {type : AttributeType} (htype : Suits a.rule type) :
    Parameters.Requests ⟨pairs⟩ a.attr type (.ok (some a)) := by
  have hgranularity : Parameters.all ⟨pairs⟩ (a.attr ++ "-granularity") = a.values .granularity :=
    h.all_eq hattrs ha .granularity
  have hoffset : Parameters.all ⟨pairs⟩ (a.attr ++ "-offset") = a.values .offset :=
    h.all_eq hattrs ha .offset
  have hparent : Parameters.all ⟨pairs⟩ (a.attr ++ "-parent") = a.values .parent :=
    h.all_eq hattrs ha .parent
  suffices hrule : Parameters.RequestsRule ⟨pairs⟩ a.attr type (.ok (some a.rule)) by
    refine ⟨_, hrule, ?_⟩
    rw [hparent, Aggregation.values, Option.head?_toList]
    rfl
  clear ha hparent
  obtain ⟨attr, rule, parent⟩ := a
  cases rule with
  | date g => exact requestsRule_of_reads hgranularity hoffset (.date htype g)
  | integer g =>
    obtain rfl : type = .integer := htype
    obtain ⟨-, k, hk, hwidth⟩ := IntegerGranularity.isBucketWidth_iff.1 g.isBucketWidth
    exact requestsRule_of_reads hgranularity hoffset
      (.integer hk hwidth (hwidth ▸ g.spellsWidth_name))
  | byName =>
    apply Parameters.RequestsRule.byName
    unfold Parameters.ByName
    rw [hgranularity]
    rfl
  | textPrefix o =>
    apply Parameters.RequestsRule.textPrefix
    · unfold Parameters.ByName
      rw [hgranularity]
      exact nofun
    · rw [hoffset]
      exact isOffset_of_offsets o

theorem firstDeclared_of_nodup {declared : List (String × AttributeType)}
    (h : (declared.map Prod.fst).Nodup) : firstDeclared declared = declared := by
  induction declared with
  | nil => rfl
  | cons x rest ih =>
    obtain ⟨hx, hrest⟩ := List.nodup_cons.1 h
    rw [firstDeclared, ih hrest, List.filter_eq_self.2]
    intro y hy
    exact decide_eq_true fun he => hx (he ▸ List.mem_map_of_mem hy)

/-- **All aggregations can be asked for.** Where no attribute has two aggregations, the parameters
for them, mixed in any order that keeps the offsets for each attribute in order, ask for just these,
in the order in which their attributes are declared. -/
theorem aggregations_can_be_requested {declared : List (String × AttributeType)}
    (hattrs : (as.map Aggregation.attr).Nodup) (hasks : Asks pairs as)
    (hdeclared : List.Forall₂ (fun x a => x.1 = a.attr ∧ Suits a.rule x.2) declared as)
    (settings : Settings) :
    Digester.ofRequest (⟨pairs⟩ : Parameters) declared settings = .ok ⟨settings, as⟩ := by
  have hnames : List.Forall₂ (· = ·) (declared.map Prod.fst) (as.map Aggregation.attr) := by
    rw [List.forall₂_map_left_iff, List.forall₂_map_right_iff]
    exact hdeclared.imp fun _ _ hx => hx.1
  rw [List.forall₂_eq_eq_eq] at hnames
  apply ofRequest_eq_ok_iff.2
  rw [firstDeclared_of_nodup (hnames ▸ hattrs), ParameterSource.readings_eq_ok_iff]
  refine ⟨rfl, as.map some, ?_, ?_⟩
  · rw [List.forall₂_map_right_iff]
    have hmem := (List.forall₂_and_left as declared).2 ⟨fun a ha => ha, hdeclared.flip⟩
    refine hmem.flip.imp fun x a hx => ?_
    obtain ⟨ha, hattr, htype⟩ := hx
    rw [hattr]
    exact Parameters.requests_iff.1 (hasks.requests hattrs ha htype)
  · simp [List.reduceOption, List.filterMap_map]

/-- Names that end like other parameters, two scopes, and offsets among parameters of other
attributes. -/
theorem aggregations_can_be_requested_under_alike_names :
    let as : List Aggregation :=
      [⟨"a", .textPrefix ⟨[2, 15], by decide, by decide⟩, some "p"⟩,
        ⟨"a-offset", .date .daily, none⟩, ⟨"a-granularity", .byName, some ""⟩]
    let pairs : List (String × String) :=
      [("a-granularity-parent", ""), ("a-offset", "2"), ("a-offset-granularity", "daily"),
        ("a-parent", "p"), ("a-granularity-granularity", "by-name"), ("a-offset", "15")]
    let declared : List (String × AttributeType) :=
      [("a", .text), ("a-offset", .dateTime), ("a-granularity", .integer)]
    ((as.map Aggregation.attr).Nodup ∧ Asks pairs as ∧
      List.Forall₂ (fun x a => x.1 = a.attr ∧ Suits a.rule x.2) declared as) ∧
    Digester.ofRequest (⟨pairs⟩ : Parameters) declared ⟨.ascii, .md5⟩ =
      .ok ⟨⟨.ascii, .md5⟩, as⟩ := by
  intro as pairs declared
  have hattrs : (as.map Aggregation.attr).Nodup := by decide
  have hasks : Asks pairs as := ⟨by decide, by decide⟩
  have hdeclared : List.Forall₂ (fun x a => x.1 = a.attr ∧ Suits a.rule x.2) declared as :=
    .cons ⟨rfl, trivial⟩ (.cons ⟨rfl, .inr rfl⟩ (.cons ⟨rfl, trivial⟩ .nil))
  exact ⟨⟨hattrs, hasks, hdeclared⟩, aggregations_can_be_requested hattrs hasks hdeclared _⟩

end Request

end BucketDigest
