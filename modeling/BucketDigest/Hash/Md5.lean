import BucketDigest.Hash.Word

/-!
# MD5

* `digest`: the hash of a whole message, which is padded and then taken block by block.
* `Running`: the hash of a message that arrives octet by octet; `Running.finish` gives the digest
  of all octets so far.
-/
namespace BucketDigest.Hash.Md5

/-- The four words that the blocks of a message change one after the other. -/
structure State where
  a : UInt32
  b : UInt32
  c : UInt32
  d : UInt32
  deriving DecidableEq

/-- The words before the first block. -/
def State.initial : State := ⟨0x67452301, 0xEFCDAB89, 0x98BADCFE, 0x10325476⟩

/-- The constants added in the 64 steps of a block: the integer parts of `2 ^ 32 * |sin i|`. -/
def constants : List UInt32 :=
  [0xd76aa478, 0xe8c7b756, 0x242070db, 0xc1bdceee, 0xf57c0faf, 0x4787c62a,
    0xa8304613, 0xfd469501, 0x698098d8, 0x8b44f7af, 0xffff5bb1, 0x895cd7be,
    0x6b901122, 0xfd987193, 0xa679438e, 0x49b40821, 0xf61e2562, 0xc040b340,
    0x265e5a51, 0xe9b6c7aa, 0xd62f105d, 0x02441453, 0xd8a1e681, 0xe7d3fbc8,
    0x21e1cde6, 0xc33707d6, 0xf4d50d87, 0x455a14ed, 0xa9e3e905, 0xfcefa3f8,
    0x676f02d9, 0x8d2a4c8a, 0xfffa3942, 0x8771f681, 0x6d9d6122, 0xfde5380c,
    0xa4beea44, 0x4bdecfa9, 0xf6bb4b60, 0xbebfbc70, 0x289b7ec6, 0xeaa127fa,
    0xd4ef3085, 0x04881d05, 0xd9d4d039, 0xe6db99e5, 0x1fa27cf8, 0xc4ac5665,
    0xf4292244, 0x432aff97, 0xab9423a7, 0xfc93a039, 0x655b59c3, 0x8f0ccc92,
    0xffeff47d, 0x85845dd1, 0x6fa87e4f, 0xfe2ce6e0, 0xa3014314, 0x4e0811a1,
    0xf7537e82, 0xbd3af235, 0x2ad7d2bb, 0xeb86d391]

/-- The rotation of step `i`: each round of 16 steps repeats four of them. -/
def rotation (i : Nat) : UInt32 :=
  ([[7, 12, 17, 22], [5, 9, 14, 20], [4, 11, 16, 23], [6, 10, 15, 21]].getD (i / 16) []).getD
    (i % 4) 0

/-- The mixing function of step `i`. -/
def mix (i : Nat) (s : State) : UInt32 :=
  if i < 16 then (s.b &&& s.c) ||| (~~~s.b &&& s.d)
  else if i < 32 then (s.d &&& s.b) ||| (~~~s.d &&& s.c)
  else if i < 48 then s.b ^^^ s.c ^^^ s.d
  else s.c ^^^ (s.b ||| ~~~s.d)

/-- The word of the block that step `i` adds. -/
def wordIndex (i : Nat) : Nat :=
  if i < 16 then i
  else if i < 32 then (5 * i + 1) % 16
  else if i < 48 then (3 * i + 5) % 16
  else 7 * i % 16

/-- Step `i` with its constant. -/
def step (block : Array UInt32) (s : State) (i : Nat) (constant : UInt32) : State :=
  let sum := mix i s + s.a + constant + block.getD (wordIndex i) 0
  ⟨s.d, s.b + rotateLeft sum (rotation i), s.b, s.c⟩

/-- Takes a block of 64 octets. -/
def compress (s : State) (block : List UInt8) : State :=
  let message := (words block).toArray
  let t := (constants.zipIdx).foldl (fun t (constant, i) => step message t i constant) s
  ⟨s.a + t.a, s.b + t.b, s.c + t.c, s.d + t.d⟩

/-- The digest that a state stands for. -/
def State.octets (s : State) : List UInt8 :=
  Hash.octets s.a ++ Hash.octets s.b ++ Hash.octets s.c ++ Hash.octets s.d

/-- The octets of a number below `2 ^ 64`, the lowest first. -/
def lengthOctets (n : Nat) : List UInt8 :=
  Hash.octets (UInt32.ofNat n) ++ Hash.octets (UInt32.ofNat (n / 4294967296))

/-- What follows a message of a given length, so that the whole is a number of blocks: a one bit,
zeros, and the length in bits. -/
def padding (length : Nat) : List UInt8 :=
  0x80 :: (List.replicate ((119 - length % 64) % 64) 0 ++ lengthOctets (8 * length))

/-- The digest of a message. -/
def digest (message : List UInt8) : List UInt8 :=
  ((pieces 63 (message ++ padding message.length)).foldl compress .initial).octets

/-- The hash of a message that is still arriving: the state after its whole blocks, the octets
since, and its length so far. -/
structure Running where
  state : State
  pending : Array UInt8
  length : Nat

namespace Running

/-- Nothing has arrived. -/
def start : Running := ⟨.initial, #[], 0⟩

/-- One more octet. -/
def push (r : Running) (b : UInt8) : Running :=
  let pending := r.pending.push b
  if pending.size = 64 then ⟨compress r.state pending.toList, #[], r.length + 1⟩
  else ⟨r.state, pending, r.length + 1⟩

/-- The digest of what has arrived. -/
def finish (r : Running) : List UInt8 :=
  ((pieces 63 (r.pending.toList ++ padding r.length)).foldl compress r.state).octets

end Running

end BucketDigest.Hash.Md5
