import BucketDigest.Numeral
import BucketDigest.SetupError

/-!
# Granularities

How finely dates and integers are told apart.

* `DateGranularity` runs from years to single instants.
* `IntegerGranularity` is the width of a bucket, a power of ten written `10s`, `100s` and so on.
-/
namespace BucketDigest

/-- How finely a date aggregation tells values apart, coarsest first. -/
inductive DateGranularity
  | yearly
  | monthly
  | daily
  | individual
  deriving DecidableEq

namespace DateGranularity

/-- The name in requests and messages. -/
def name : DateGranularity → String
  | .yearly => "yearly"
  | .monthly => "monthly"
  | .daily => "daily"
  | .individual => "individual"

/-- The granularity that a name stands for. -/
def ofName (name : String) : Except SetupError DateGranularity :=
  if name = "yearly" then .ok .yearly
  else if name = "monthly" then .ok .monthly
  else if name = "daily" then .ok .daily
  else if name = "individual" then .ok .individual
  else .error (.invalidGranularity name)

/-- How fine a granularity is; the coarsest has rank 0. -/
def rank : DateGranularity → Nat
  | .yearly => 0
  | .monthly => 1
  | .daily => 2
  | .individual => 3

instance : LT DateGranularity := ⟨fun g h => g.rank < h.rank⟩

instance : LE DateGranularity := ⟨fun g h => g.rank ≤ h.rank⟩

instance (g h : DateGranularity) : Decidable (g < h) :=
  inferInstanceAs (Decidable (g.rank < h.rank))

instance (g h : DateGranularity) : Decidable (g ≤ h) :=
  inferInstanceAs (Decidable (g.rank ≤ h.rank))

/-- All granularities, coarsest first. -/
def all : List DateGranularity := [.yearly, .monthly, .daily, .individual]

/-- The granularities coarser than one, coarsest first. -/
def coarser (g : DateGranularity) : List DateGranularity :=
  all.filter fun h => decide (h < g)

@[simp] theorem ofName_name (g : DateGranularity) : ofName g.name = .ok g := by
  cases g <;> rfl

end DateGranularity

/-- What is left of a number when the zeros at its end are struck off. -/
def withoutTrailingZeros (n : Nat) : Nat :=
  if 10 ≤ n ∧ n % 10 = 0 then withoutTrailingZeros (n / 10) else n
termination_by n
decreasing_by omega

/-- Whether an integer is a power of ten, from ten on, within 64 bits. -/
def IsBucketWidth (width : Int) : Prop :=
  10 ≤ width ∧ width ≤ Numeral.int64Max ∧ withoutTrailingZeros width.toNat = 1

instance (width : Int) : Decidable (IsBucketWidth width) :=
  inferInstanceAs (Decidable (_ ∧ _ ∧ _))

/-- The width of the buckets of an integer aggregation. -/
@[ext]
structure IntegerGranularity where
  width : Int
  isBucketWidth : IsBucketWidth width
  deriving DecidableEq

namespace IntegerGranularity

/-- A width as requests and messages write it. -/
def widthText (width : Int) : String :=
  String.ofList (Numeral.decimal width ++ ['s'])

/-- The name in requests and messages. -/
def name (g : IntegerGranularity) : String := widthText g.width

/-- The granularity of a given width. -/
def ofWidth (width : Int) : Except SetupError IntegerGranularity :=
  if h : IsBucketWidth width then .ok ⟨width, h⟩ else .error (.invalidGranularity (widthText width))

/-- The characters before a final `s`. -/
def beforeUnit? (cs : List Char) : Option (List Char) :=
  if cs.getLast? = some 's' then some cs.dropLast else none

/-- The granularity that a text such as `100s` stands for. -/
def ofName (text : String) : Except SetupError IntegerGranularity :=
  match (beforeUnit? text.toList).bind Numeral.int64? with
  | some width => ofWidth width
  | none => .error (.invalidGranularity text)

end IntegerGranularity

end BucketDigest
