import BucketDigest.Hash.Word

/-!
# BLAKE3

A message is cut into chunks of 1024 octets, each of which is hashed block by block, and the chunks
are the leaves of a tree whose left subtrees are full.

* `digest`: the hash of a whole message, by recursion on the tree.
* `Running`: the hash of a message that arrives octet by octet. It keeps the subtrees that are
  complete, at most one of each height.
-/
namespace BucketDigest.Hash.Blake3

/-- Four words that are worked on side by side. -/
structure Quad where
  x : UInt32
  y : UInt32
  z : UInt32
  w : UInt32
  deriving DecidableEq

namespace Quad

/-- Applies an operation to each pair of words. -/
def zip (f : UInt32 → UInt32 → UInt32) (a b : Quad) : Quad :=
  ⟨f a.x b.x, f a.y b.y, f a.z b.z, f a.w b.w⟩

/-- Rotates each word to the right. -/
def rotate (n : UInt32) (a : Quad) : Quad :=
  ⟨rotateRight a.x n, rotateRight a.y n, rotateRight a.z n, rotateRight a.w n⟩

/-- Moves the words one place forward, the first to the end. -/
def turn (a : Quad) : Quad := ⟨a.y, a.z, a.w, a.x⟩

/-- The octets of the words in order. -/
def octets (a : Quad) : List UInt8 :=
  Hash.octets a.x ++ Hash.octets a.y ++ Hash.octets a.z ++ Hash.octets a.w

end Quad

/-- The 16 words that a compression works on, as rows of four. -/
structure Rows where
  a : Quad
  b : Quad
  c : Quad
  d : Quad

/-- Mixes message words into the columns. -/
def quarter (v : Rows) (m n : Quad) : Rows :=
  let add := Quad.zip (· + ·)
  let xor := Quad.zip (· ^^^ ·)
  let a := add (add v.a v.b) m
  let d := (xor v.d a).rotate 16
  let c := add v.c d
  let b := (xor v.b c).rotate 12
  let a := add (add a b) n
  let d := (xor d a).rotate 8
  let c := add c d
  let b := (xor b c).rotate 7
  ⟨a, b, c, d⟩

/-- Four message words. -/
def select (m : Array UInt32) (i j k l : Nat) : Quad :=
  ⟨m.getD i 0, m.getD j 0, m.getD k 0, m.getD l 0⟩

/-- One round: the columns, and then the diagonals, which stand as columns while the rows below
the first are turned by one, two and three places. -/
def round (v : Rows) (m : Array UInt32) : Rows :=
  let v := quarter v (select m 0 2 4 6) (select m 1 3 5 7)
  let v := quarter ⟨v.a, v.b.turn, v.c.turn.turn, v.d.turn.turn.turn⟩ (select m 8 10 12 14)
    (select m 9 11 13 15)
  ⟨v.a, v.b.turn.turn.turn, v.c.turn.turn, v.d.turn⟩

/-- The order of the message words in the next round. -/
def permute (m : Array UInt32) : Array UInt32 :=
  #[2, 6, 3, 10, 7, 0, 4, 13, 1, 11, 12, 5, 9, 14, 15, 8].map fun i => m.getD i 0

/-- Some rounds, with the message words permuted between them. -/
def rounds : Nat → Rows → Array UInt32 → Rows
  | 0, v, _ => v
  | n + 1, v, m => rounds n (round v m) (permute m)

/-- The eight words that stand for everything below a place in the tree. -/
structure Chain where
  low : Quad
  high : Quad
  deriving DecidableEq

/-- The octets of the words in order. -/
def Chain.octets (c : Chain) : List UInt8 := c.low.octets ++ c.high.octets

/-- The words before the first block. -/
def Chain.initial : Chain :=
  ⟨⟨0x6A09E667, 0xBB67AE85, 0x3C6EF372, 0xA54FF53A⟩,
    ⟨0x510E527F, 0x9B05688C, 0x1F83D9AB, 0x5BE0CD19⟩⟩

/-- The mark of the first block of a chunk. -/
def chunkStart : UInt32 := 1

/-- The mark of the last block of a chunk. -/
def chunkEnd : UInt32 := 2

/-- The mark of a place above two others. -/
def parent : UInt32 := 4

/-- The mark of the last compression of all. -/
def root : UInt32 := 8

/-- Takes a block of at most 64 octets. -/
def compress (chain : Chain) (block : List UInt8) (counter : Nat) (flags : UInt32) : Chain :=
  let v := rounds 7
    ⟨chain.low, chain.high, Chain.initial.low,
      ⟨UInt32.ofNat counter, UInt32.ofNat (counter / 4294967296), UInt32.ofNat block.length, flags⟩⟩
    (words block).toArray
  ⟨v.a.zip (· ^^^ ·) v.c, v.b.zip (· ^^^ ·) v.d⟩

/-- The last compression at a place in the tree, before it is known whether this is the root. -/
structure Node where
  chain : Chain
  block : List UInt8
  counter : Nat
  flags : UInt32

/-- What stands for a place below the root. -/
def Node.output (n : Node) : Chain := compress n.chain n.block n.counter n.flags

/-- The digest, when the place is the root. -/
def Node.digest (n : Node) : List UInt8 :=
  (compress n.chain n.block n.counter (n.flags ||| root)).octets

/-- The place above two others. -/
def Node.above (left right : Chain) : Node :=
  ⟨.initial, left.octets ++ right.octets, 0, parent⟩

/-! ## Whole messages -/

/-- The rest of a chunk, after blocks that have led to `chain`. -/
def chunkFrom (index : Nat) (chain : Chain) (flags : UInt32) (s : List UInt8) : Node :=
  if s.length ≤ 64 then ⟨chain, s, index, flags ||| chunkEnd⟩
  else chunkFrom index (compress chain (s.take 64) index flags) 0 (s.drop 64)
termination_by s.length
decreasing_by
  simp only [List.length_drop]
  omega

/-- A chunk at its place among the chunks. -/
def chunk (index : Nat) (s : List UInt8) : Node := chunkFrom index .initial chunkStart s

/-- Chunks in the left subtree of a tree over `n` octets, more than one chunk: the greatest power
of two that leaves an octet for the right subtree. -/
def leftChunks (n : Nat) : Nat := Nat.pow 2 (Nat.log2 ((n - 1) / 1024))

/-- The tree over octets whose first chunk has a given index. -/
def tree (index : Nat) (s : List UInt8) : Node :=
  if s.length ≤ 1024 then chunk index s
  else
    let n := leftChunks s.length
    .above (tree index (s.take (1024 * n))).output (tree (index + n) (s.drop (1024 * n))).output
termination_by s.length
decreasing_by
  all_goals
    have hpos : 1 ≤ leftChunks s.length := Nat.one_le_two_pow
    have hle : leftChunks s.length ≤ (s.length - 1) / 1024 := Nat.log2_self_le (by omega)
    simp only [List.length_take, List.length_drop]
    omega

/-- The digest of a message. -/
def digest (message : List UInt8) : List UInt8 := (tree 0 message).digest

/-! ## Messages that arrive -/

/-- A chunk that is still arriving: what its whole blocks have led to, how many there are, and the
octets since, which are at least one as soon as any has arrived. -/
structure OpenChunk where
  chain : Chain
  blocks : Nat
  pending : Array UInt8

namespace OpenChunk

/-- Nothing has arrived. -/
def start : OpenChunk := ⟨.initial, 0, #[]⟩

/-- The mark of the block at hand. -/
def flags (c : OpenChunk) : UInt32 := if c.blocks = 0 then chunkStart else 0

/-- Whether the next octet belongs to another chunk. -/
def isFull (c : OpenChunk) : Bool := c.blocks = 15 && c.pending.size = 64

/-- One more octet of a chunk that is not full. -/
def push (index : Nat) (c : OpenChunk) (b : UInt8) : OpenChunk :=
  if c.pending.size = 64 then
    ⟨compress c.chain c.pending.toList index c.flags, c.blocks + 1, #[b]⟩
  else ⟨c.chain, c.blocks, c.pending.push b⟩

/-- The chunk, if nothing else arrives. -/
def node (index : Nat) (c : OpenChunk) : Node :=
  ⟨c.chain, c.pending.toList, index, c.flags ||| chunkEnd⟩

end OpenChunk

/-- A complete subtree over `2 ^ height` chunks. -/
structure Subtree where
  height : Nat
  chain : Chain

/-- Puts a complete subtree on those to its left, the nearest first; two of one height become one
of the next. -/
def graft (t : Subtree) : List Subtree → List Subtree
  | [] => [t]
  | left :: rest =>
    if left.height = t.height then
      graft ⟨t.height + 1, (Node.above left.chain t.chain).output⟩ rest
    else t :: left :: rest

/-- The hash of a message that is still arriving: the complete subtrees, the nearest first, the
index of the chunk at hand, and that chunk. -/
structure Running where
  complete : List Subtree
  index : Nat
  current : OpenChunk

namespace Running

/-- Nothing has arrived. -/
def start : Running := ⟨[], 0, .start⟩

/-- One more octet. A full chunk is closed only now, since until then it may be the last. -/
def push (r : Running) (b : UInt8) : Running :=
  if r.current.isFull then
    ⟨graft ⟨0, (r.current.node r.index).output⟩ r.complete, r.index + 1,
      OpenChunk.start.push (r.index + 1) b⟩
  else ⟨r.complete, r.index, r.current.push r.index b⟩

/-- The digest of what has arrived. -/
def finish (r : Running) : List UInt8 :=
  (r.complete.foldl (fun right left => Node.above left.chain right.output)
    (r.current.node r.index)).digest

end Running

end BucketDigest.Hash.Blake3
