/-!
# Words and octets

32-bit words in little-endian octets, rotation, hexadecimal text, and cutting octets into pieces of
one length.
-/
namespace BucketDigest.Hash

/-- Rotates a word to the left by fewer than 32 bits. -/
def rotateLeft (w n : UInt32) : UInt32 := (w <<< n) ||| (w >>> (32 - n))

/-- Rotates a word to the right by fewer than 32 bits. -/
def rotateRight (w n : UInt32) : UInt32 := (w >>> n) ||| (w <<< (32 - n))

/-- The octets of a word, the lowest first. -/
def octets (w : UInt32) : List UInt8 :=
  [w.toUInt8, (w >>> 8).toUInt8, (w >>> 16).toUInt8, (w >>> 24).toUInt8]

/-- The words that octets spell, the lowest octet first. Octets missing at the end are zeros. -/
def words : List UInt8 → List UInt32
  | a :: b :: c :: d :: rest =>
    (a.toUInt32 ||| (b.toUInt32 <<< 8) ||| (c.toUInt32 <<< 16) ||| (d.toUInt32 <<< 24)) ::
      words rest
  | [a, b, c] => [a.toUInt32 ||| (b.toUInt32 <<< 8) ||| (c.toUInt32 <<< 16)]
  | [a, b] => [a.toUInt32 ||| (b.toUInt32 <<< 8)]
  | [a] => [a.toUInt32]
  | [] => []

/-- Octets in lower-case hexadecimal. -/
def hex (s : List UInt8) : String :=
  String.ofList (s.flatMap fun b => [Nat.digitChar (b.toNat / 16), Nat.digitChar (b.toNat % 16)])

/-- Octets cut into pieces of `n + 1`, the last of which may be shorter. -/
def pieces (n : Nat) : List UInt8 → List (List UInt8)
  | [] => []
  | b :: s => (b :: s.take n) :: pieces n (s.drop n)
termination_by s => s.length
decreasing_by
  simp only [List.length_drop, List.length_cons]
  omega

end BucketDigest.Hash
