import BucketDigest.Numeral

/-!
# Errors in the set-up of a scan

What can be wrong with aggregations and settings before the first entry is seen.
-/
namespace BucketDigest

/-- Why a scan cannot be set up. -/
inductive SetupError
  | invalidGranularity (text : String)
  | noOffsets
  | invalidOffset (offset : UInt64)
  | unknownCollation (name : String)
  | unknownAlgorithm (name : String)
  | noCollator (reason : String)
  | duplicateAggregation (attr : String)
  deriving DecidableEq

/-- The wording of an error. -/
def SetupError.message : SetupError → String
  | .invalidGranularity text => "invalid granularity: " ++ text
  | .noOffsets => "string prefix aggregation requires at least one offset"
  | .invalidOffset offset =>
    "invalid prefix offset " ++ Numeral.countText offset.toNat ++
      ": offsets must be positive and strictly increasing"
  | .unknownCollation name => "unknown collation: " ++ name
  | .unknownAlgorithm name => "unknown digest algorithm: " ++ name
  | .noCollator reason => "collator unavailable: " ++ reason
  | .duplicateAggregation attr => "more than one aggregation for attribute " ++ attr

end BucketDigest
