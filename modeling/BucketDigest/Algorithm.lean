import BucketDigest.Hash.Blake3
import BucketDigest.Hash.Md5
import BucketDigest.SetupError

/-!
# Digest algorithms

* `Algorithm.hexDigest` hashes octets that are all there.
* `RunningHash` hashes octets that arrive piece by piece.
-/
namespace BucketDigest

/-- A hash function for the versions in a bucket. -/
inductive Algorithm
  | md5
  | blake3
  deriving DecidableEq

namespace Algorithm

/-- The name in settings and messages. -/
def name : Algorithm → String
  | .md5 => "md5"
  | .blake3 => "blake3"

/-- The algorithm that a name stands for. -/
def ofName (name : String) : Except SetupError Algorithm :=
  if name = "md5" then .ok .md5
  else if name = "blake3" then .ok .blake3
  else .error (.unknownAlgorithm name)

/-- The algorithm as diagnostics show it. -/
def describe : Algorithm → String
  | .md5 => "Md5"
  | .blake3 => "Blake3"

/-- The digest of octets in hexadecimal. -/
def hexDigest : Algorithm → List UInt8 → String
  | .md5, s => Hash.hex (Hash.Md5.digest s)
  | .blake3, s => Hash.hex (Hash.Blake3.digest s)

@[simp] theorem ofName_name (a : Algorithm) : ofName a.name = .ok a := by
  cases a <;> rfl

end Algorithm

/-- The hash of octets that are still arriving. -/
inductive RunningHash
  | md5 (running : Hash.Md5.Running)
  | blake3 (running : Hash.Blake3.Running)

namespace RunningHash

/-- Nothing has arrived. -/
def start : Algorithm → RunningHash
  | .md5 => .md5 .start
  | .blake3 => .blake3 .start

/-- More octets arrive. -/
def feed (s : List UInt8) : RunningHash → RunningHash
  | .md5 r => .md5 (s.foldl Hash.Md5.Running.push r)
  | .blake3 r => .blake3 (s.foldl Hash.Blake3.Running.push r)

/-- The digest of what has arrived, in hexadecimal. -/
def finish : RunningHash → String
  | .md5 r => Hash.hex r.finish
  | .blake3 r => Hash.hex r.finish

/-- Pieces count as what they are when put together. -/
theorem feed_append (s t : List UInt8) (h : RunningHash) : h.feed (s ++ t) = (h.feed s).feed t := by
  cases h <;> simp [feed, List.foldl_append]

end RunningHash

end BucketDigest
