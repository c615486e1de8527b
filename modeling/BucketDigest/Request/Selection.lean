import BucketDigest.Event
import BucketDigest.Request.Error
import BucketDigest.Request.Parameters

/-!
# Choosing aggregations by request

A request asks for aggregations by parameters named after the attributes.

* `a-granularity`: `by-name`, or a granularity that fits the type of the attribute `a`.
* `a-offset`: lengths of prefixes.
* `a-parent`: the scope that the labels belong to.

`Selection` collects the aggregations, at most one for each attribute. `Selection.add` tries all
that can be asked for an attribute in turn; each of the others tries one thing.
-/
namespace BucketDigest.Request

/-- The declared type of an attribute. -/
inductive AttributeType
  | date
  | dateTime
  | integer
  | text
  deriving DecidableEq

namespace AttributeType

/-- The name of a type. -/
def name : AttributeType → String
  | .date => "date"
  | .dateTime => "datetime"
  | .integer => "int"
  | .text => "string"

/-- The type that a name stands for. -/
def ofName (name : String) : Except RequestError AttributeType :=
  if name = "date" then .ok .date
  else if name = "datetime" then .ok .dateTime
  else if name = "int" ∨ name = "integer" then .ok .integer
  else if name = "string" then .ok .text
  else .error (.unknownType name)

@[simp] theorem ofName_name (t : AttributeType) : ofName t.name = .ok t := by
  cases t <;> rfl

/-- The rule that a granularity stands for where an attribute has this type; texts have none. -/
def rule : AttributeType → String → Except SetupError Rule
  | .date, granularity => (DateGranularity.ofName granularity).map Rule.date
  | .dateTime, granularity => (DateGranularity.ofName granularity).map Rule.date
  | .integer, granularity => (IntegerGranularity.ofName granularity).map Rule.integer
  | .text, granularity => .error (.invalidGranularity granularity)

end AttributeType

/-! ## What is asked for one attribute -/

namespace ParameterSource

/-- The granularity that is asked for. -/
def granularity? (p : ParameterSource) (attr : String) : Option String :=
  p.first? (attr ++ "-granularity")

/-- The granularity that is asked for, unless it is empty or asks for grouping by name. -/
def quantizing? (p : ParameterSource) (attr : String) : Option String :=
  (p.granularity? attr).filter fun g => g ≠ "" ∧ g ≠ Rule.byNameToken

/-- The scope that labels of the attribute belong to. -/
def parent? (p : ParameterSource) (attr : String) : Option String :=
  p.first? (attr ++ "-parent")

/-- Adds the attribute to an error of set-up. -/
def forAttribute {α : Type} (attr : String) : Except SetupError α → Except RequestError α
  | .ok a => .ok a
  | .error e => .error (.setup attr e)

/-- A rule by granularity, if one is asked for. -/
def typedRule (p : ParameterSource) (attr : String) (type : AttributeType) :
    Except RequestError (Option Rule) :=
  match p.quantizing? attr with
  | none => .ok none
  | some granularity => forAttribute attr ((type.rule granularity).map some)

/-- Grouping by name, if it is asked for. -/
def byNameRule (p : ParameterSource) (attr : String) : Option Rule :=
  if p.granularity? attr = some Rule.byNameToken then some .byName else none

/-- The length that an offset parameter gives: a positive number, with white space around it. -/
def offset (attr value : String) : Except RequestError UInt64 :=
  match Numeral.uint64? (Text.trim value.toList) with
  | none => .error (.invalidOffset attr value)
  | some n => if n = 0 then .error (.invalidOffset attr value) else .ok n

/-- A rule for prefixes, if offsets are given. -/
def prefixRule (p : ParameterSource) (attr : String) : Except RequestError (Option Rule) :=
  match p.all? (attr ++ "-offset") with
  | none => .ok none
  | some values => do
    let offsets ← values.mapM (offset attr)
    forAttribute attr ((Offsets.ofList offsets).map fun o => some (.textPrefix o))

end ParameterSource

/-! ## Collecting aggregations -/

/-- The aggregations chosen so far from some parameters. -/
@[ext]
structure Selection where
  parameters : ParameterSource
  chosen : List Aggregation

/-- What came of asking for an attribute. -/
inductive Outcome
  | alreadyAggregated
  | notRequested
  | added (aggregation : Aggregation)
  deriving DecidableEq

namespace Outcome

/-- Whether there is one aggregation more. -/
def isAdded : Outcome → Bool
  | .added _ => true
  | _ => false

/-- What is reported. -/
def events (attr : String) : Outcome → List Event
  | .alreadyAggregated => [.alreadyAggregated attr]
  | .notRequested => []
  | .added a => [.aggregationAdded a]

end Outcome

namespace Selection

/-- Nothing is chosen yet. -/
def start (parameters : ParameterSource) : Selection := ⟨parameters, []⟩

/-- Whether an attribute has its aggregation. -/
def governs (s : Selection) (attr : String) : Bool :=
  s.chosen.any fun a => a.attr = attr

/-- The chosen aggregations, each once. -/
def distinct (s : Selection) : List Aggregation := s.chosen.eraseDups

/-- Work on a selection. What has been chosen before a failure stays chosen. -/
abbrev Work := EStateM RequestError Selection

/-- Fails if a check does. -/
def Work.check {α : Type} (result : Except RequestError α) : Work α :=
  match result with
  | .ok a => pure a
  | .error error => throw error

/-- One aggregation more, behind the others. -/
def extend (s : Selection) (a : Aggregation) : Selection :=
  { s with chosen := s.chosen ++ [a] }

/-- Chooses a rule for an attribute, unless it has one or none is asked for. -/
def choose (attr : String) (rule : ParameterSource → Except RequestError (Option Rule)) :
    Work Outcome := do
  let s ← get
  if s.governs attr then return .alreadyAggregated
  else
    match ← Work.check (rule s.parameters) with
    | none => return .notRequested
    | some rule =>
      let a : Aggregation := ⟨attr, rule, s.parameters.parent? attr⟩
      modify (extend · a)
      return .added a

@[simp] theorem Work.run_check {α : Type} (result : Except RequestError α) (s : Selection) :
    (Work.check result).run s =
      match result with
      | .ok a => .ok a s
      | .error error => .error error s := by
  cases result <;> rfl

/-- All that a choice can come to. -/
theorem run_choose (attr : String) (rule : ParameterSource → Except RequestError (Option Rule))
    (s : Selection) :
    (choose attr rule).run s =
      if s.governs attr then .ok .alreadyAggregated s
      else
        match rule s.parameters with
        | .error error => .error error s
        | .ok none => .ok .notRequested s
        | .ok (some rule) =>
          .ok (.added ⟨attr, rule, s.parameters.parent? attr⟩)
            (s.extend ⟨attr, rule, s.parameters.parent? attr⟩) := by
  simp only [choose, EStateM.run_bind, EStateM.run_get]
  split
  · rfl
  · rw [EStateM.run_bind, Work.run_check]
    rcases rule s.parameters with error | _ | rule <;> rfl

/-- Chooses a granularity for the type of the attribute. -/
def addTyped (attr : String) (type : AttributeType) : Work Outcome :=
  choose attr fun p => p.typedRule attr type

/-- Chooses grouping by name. -/
def addByName (attr : String) : Work Outcome :=
  choose attr fun p => .ok (p.byNameRule attr)

/-- Chooses prefixes. -/
def addPrefix (attr : String) : Work Outcome :=
  choose attr fun p => p.prefixRule attr

/-- Chooses what is asked for an attribute of a type: grouping by name before prefixes, and those
before granularities. -/
def add (attr : String) (type : AttributeType) : Work Outcome := do
  let s ← get
  if s.governs attr then return .alreadyAggregated
  else
    let byName ← addByName attr
    if byName.isAdded then return byName
    else
      let byPrefix ← addPrefix attr
      if byPrefix.isAdded then return byPrefix
      else addTyped attr type

/-- Chooses what is asked for each of some declared attributes. -/
def addAll : List (String × AttributeType) → Work Unit
  | [] => pure ()
  | (attr, type) :: rest => do
    let _ ← add attr type
    addAll rest

/-- What is reported while attributes are gone through, up to an error. -/
def addAllEvents (s : Selection) : List (String × AttributeType) → List Event
  | [] => []
  | (attr, type) :: rest =>
    match (add attr type).run s with
    | .error _ _ => []
    | .ok outcome s => outcome.events attr ++ addAllEvents s rest

end Selection

/-! ## Questions one after the other -/

/-- What can be asked of a selection. -/
inductive Ask
  | any (attr : String) (type : AttributeType)
  | date (attr : String)
  | integer (attr : String)
  | byName (attr : String)
  | textPrefix (attr : String)
  deriving DecidableEq

namespace Ask

/-- The attribute that is asked for. -/
def attr : Ask → String
  | .any attr _ => attr
  | .date attr => attr
  | .integer attr => attr
  | .byName attr => attr
  | .textPrefix attr => attr

/-- The work that is to be done. -/
def work : Ask → Selection.Work Outcome
  | .any attr type => Selection.add attr type
  | .date attr => Selection.addTyped attr .date
  | .integer attr => Selection.addTyped attr .integer
  | .byName attr => Selection.addByName attr
  | .textPrefix attr => Selection.addPrefix attr

end Ask

namespace Selection

/-- The selection after something has been asked of it, and its answer. -/
def step (s : Selection) (ask : Ask) : Selection × Except RequestError Outcome :=
  match ask.work.run s with
  | .ok outcome s => (s, .ok outcome)
  | .error error s => (s, .error error)

/-- The selection after some questions, and the record of them. -/
def run (s : Selection) : List Ask → Selection × List (Ask × Except RequestError Outcome)
  | [] => (s, [])
  | ask :: asks =>
    let (s, answer) := s.step ask
    let (s, record) := run s asks
    (s, (ask, answer) :: record)

end Selection

end BucketDigest.Request
