import BucketDigest.Aggregation.Label
import BucketDigest.Text.Quoted

/-!
# Aggregations

An aggregation governs one attribute: it maps the value of the attribute to the label of a bucket.
It may name the scope that the labels belong to, for those who show them; no label depends on it.
-/
namespace BucketDigest

/-- How the values of an attribute are mapped to labels. -/
inductive Rule
  | date (granularity : DateGranularity)
  | integer (granularity : IntegerGranularity)
  | byName
  | textPrefix (offsets : Offsets)
  deriving DecidableEq

/-- The granularity that asks for grouping by the value itself. -/
def Rule.byNameToken : String := "by-name"

/-- The label of a value. -/
def Rule.label : Rule → String → Except LabelError String
  | .date granularity, raw => granularity.label raw
  | .integer granularity, raw => granularity.label raw
  | .byName, raw => .ok raw
  | .textPrefix offsets, raw => .ok (offsets.label raw)

/-- A rule for one attribute. -/
@[ext]
structure Aggregation where
  attr : String
  rule : Rule
  parent : Option String
  deriving DecidableEq

namespace Aggregation

/-- The next finer tier of a prefix aggregation, if there is one. -/
def refine? (a : Aggregation) : Option Aggregation :=
  match a.rule with
  | .textPrefix offsets => offsets.refine?.map fun o => { a with rule := .textPrefix o }
  | _ => none

/-- The aggregation and every finer tier of it. -/
def tiers (a : Aggregation) : List Aggregation :=
  match a.rule with
  | .textPrefix offsets => offsets.tiers.map fun o => { a with rule := .textPrefix o }
  | _ => [a]

/-- The first of some attributes that has been seen before it. -/
def firstRepeated? (seen : List String) : List String → Option String
  | [] => none
  | attr :: rest => if attr ∈ seen then some attr else firstRepeated? (attr :: seen) rest

/-- The first attribute, in list order, that an earlier aggregation governs too. -/
def duplicate? (aggregations : List Aggregation) : Option String :=
  firstRepeated? [] (aggregations.map Aggregation.attr)

/-! ## Diagnostics -/

/-- A granularity in diagnostics. -/
def granularityWord : DateGranularity → String
  | .yearly => "Yearly"
  | .monthly => "Monthly"
  | .daily => "Daily"
  | .individual => "Individual"

/-- One named part of a value in diagnostics. -/
def part (name text : String) : String := name ++ ": " ++ text

/-- A value with named parts in diagnostics. -/
def shown (kind type : String) (parts : List String) : String :=
  kind ++ "(" ++ type ++ " \x7b " ++ String.intercalate ", " parts ++ " \x7d)"

/-- The aggregation as diagnostics show it. -/
def describe (a : Aggregation) : String :=
  let attr := part "attribute" (Text.quoted a.attr)
  let parent := part "parent" (Text.quotedOption a.parent)
  match a.rule with
  | .date g =>
    shown "Date" "DateAggregation" [attr, part "granularity" (granularityWord g), parent]
  | .integer g =>
    shown "Integer" "IntegerAggregation"
      [attr,
        part "granularity"
          ("IntegerGranularity(" ++ Numeral.integerText g.width ++ ")"),
        parent]
  | .byName => shown "ByName" "ByNameAggregation" [attr, parent]
  | .textPrefix o =>
    shown "StringPrefix" "StringPrefixAggregation"
      [attr, parent,
        part "offsets"
          ("[" ++ String.intercalate ", " (o.toList.map fun n => Numeral.countText n.toNat) ++ "]")]

/-- Aggregations as diagnostics show them. -/
def describeAll (aggregations : List Aggregation) : String :=
  "[" ++ String.intercalate ", " (aggregations.map describe) ++ "]"

end Aggregation

end BucketDigest
