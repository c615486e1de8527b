import Mathlib.Algebra.Group.Nat.Defs
import BucketDigest.Hash.Blake3

/-!
# BLAKE3 of a message that arrives

`digest` cuts the whole message into a tree; `Running` sees one octet at a time and keeps an open
chunk and the complete subtrees to its left. Both give the same digest.

* `OpenChunk.Holds`: the open chunk is `chunk` stopped in the middle.
* `Covers`: the complete subtrees, nearest first, stand for the chunks before it. Their heights
  ascend, as the ones of a binary counter do, so that each is the left half of all that follows.
* `finish_foldl_push`: the digest of what has arrived is the digest of the message.
-/
namespace BucketDigest.Hash.Blake3

/-! ## The open chunk -/

/-- The open chunk holds the octets `b` of chunk `index`: whatever arrives next, the chunk as a
whole is hashed from where the open chunk stands. -/
structure OpenChunk.Holds (index : Nat) (c : OpenChunk) (b : List UInt8) : Prop where
  size_le : c.pending.size ≤ 64
  length_eq : b.length = 64 * c.blocks + c.pending.size
  pos : 0 < c.blocks → 0 < c.pending.size
  rest : ∀ s, chunk index (b ++ s) = chunkFrom index c.chain c.flags (c.pending.toList ++ s)

namespace OpenChunk

variable {index : Nat} {c : OpenChunk} {b : List UInt8}

theorem holds_start (index : Nat) : start.Holds index [] where
  size_le := Nat.zero_le 64
  length_eq := rfl
  pos h := absurd h (Nat.lt_irrefl 0)
  rest _ := rfl

theorem holds_push (h : c.Holds index b) (x : UInt8) : (c.push index x).Holds index (b ++ [x]) := by
  obtain ⟨hsize, hlen, hpos, hrest⟩ := h
  unfold push
  split
  · next hfull =>
    refine ⟨by simp, ?_, by simp, ?_⟩
    · rw [List.length_append, hlen, hfull]; simp; omega
    · intro s
      have hflags : ∀ chain pending, flags ⟨chain, c.blocks + 1, pending⟩ = 0 := by
        intro chain pending; simp [flags]
      have hlen64 : c.pending.toList.length = 64 := by simpa using hfull
      rw [List.append_assoc, hrest, chunkFrom, if_neg (by simp [hfull]), List.take_left' hlen64,
        List.drop_left' hlen64, hflags]
  · next hne =>
    refine ⟨by simp; omega, ?_, by simp, ?_⟩
    · rw [List.length_append, hlen]; simp; omega
    · intro s
      rw [List.append_assoc, hrest]
      simp [flags]

theorem Holds.node_eq (h : c.Holds index b) : c.node index = chunk index b := by
  have hrest := h.rest []
  have hle : (c.pending.toList ++ []).length ≤ 64 := by simpa using h.size_le
  rw [List.append_nil, chunkFrom, if_pos hle, List.append_nil] at hrest
  exact hrest.symm

theorem Holds.isFull_iff (h : c.Holds index b) : c.isFull = true ↔ b.length = 1024 := by
  have hsize := h.size_le
  have hlen := h.length_eq
  have hpos := h.pos
  simp only [isFull, Bool.and_eq_true, decide_eq_true_eq]
  omega

end OpenChunk

/-! ## Trees -/

theorem tree_of_length_le {s : List UInt8} (h : s.length ≤ 1024) (index : Nat) :
    tree index s = chunk index s := by
  rw [tree, if_pos h]

theorem leftChunks_add {k height : Nat} (hk : 0 < k) (hle : k ≤ 1024 * 2 ^ height) :
    leftChunks (1024 * 2 ^ height + k) = 2 ^ height := by
  have hlog : Nat.log2 ((1024 * 2 ^ height + k - 1) / 1024) = height := by
    rw [Nat.log2_eq_iff (by have := Nat.two_pow_pos height; omega), Nat.pow_succ]
    omega
  unfold leftChunks
  rw [hlog]
  rfl

/-- A complete subtree is the left half of a tree over at most twice as many chunks. -/
theorem tree_append {a b : List UInt8} {height : Nat} (ha : a.length = 1024 * 2 ^ height)
    (hb : 0 < b.length) (hle : b.length ≤ 1024 * 2 ^ height) (index : Nat) :
    tree index (a ++ b) =
      .above (tree index a).output (tree (index + 2 ^ height) b).output := by
  have hn : leftChunks (a ++ b).length = 2 ^ height := by
    rw [List.length_append, ha]; exact leftChunks_add hb hle
  have hgt : ¬ (a ++ b).length ≤ 1024 := by
    have := Nat.two_pow_pos height
    rw [List.length_append, ha]; omega
  rw [tree, if_neg hgt]
  simp only [hn, List.take_left' ha, List.drop_left' ha]

/-! ## Complete subtrees -/

/-- Complete subtrees, the nearest first, stand for octets. Each is lower than every one to its
left. -/
inductive Covers : List Subtree → List UInt8 → Prop
  | nil : Covers [] []
  | cons {t : Subtree} {lefts : List Subtree} {a b : List UInt8} (hlefts : Covers lefts a)
      (hlen : b.length = 1024 * 2 ^ t.height)
      (hchain : t.chain = (tree (a.length / 1024) b).output)
      (hlt : ∀ u ∈ lefts, t.height < u.height) : Covers (t :: lefts) (a ++ b)

theorem index_add (n height : Nat) :
    (n + 1024 * 2 ^ height) / 1024 = n / 1024 + 2 ^ height := by
  rw [Nat.add_mul_div_left _ _ (by decide)]

/-- Grafting keeps the cover: two subtrees of one height are the halves of the next. -/
theorem covers_graft {lefts : List Subtree} {a : List UInt8} (hl : Covers lefts a) :
    ∀ {t : Subtree} {b : List UInt8}, b.length = 1024 * 2 ^ t.height →
      t.chain = (tree (a.length / 1024) b).output → (∀ u ∈ lefts, t.height ≤ u.height) →
      Covers (graft t lefts) (a ++ b) := by
  induction hl with
  | nil =>
    intro t b hlen hchain _
    exact .cons .nil hlen hchain (by simp)
  | @cons left lefts a c hlefts hclen hcchain hlt ih =>
    intro t b hlen hchain hle
    unfold graft
    split
    · next heq =>
      rw [List.append_assoc]
      have hpow : 2 ^ (t.height + 1) = 2 * 2 ^ t.height := Nat.pow_succ'
      have hpos : 0 < b.length := by have := Nat.two_pow_pos t.height; omega
      have hle' : b.length ≤ 1024 * 2 ^ left.height := Nat.le_of_eq (by rw [hlen, heq])
      refine ih ?_ ?_ ?_
      · rw [List.length_append, hclen, hlen, heq]; simp only [hpow]; omega
      · rw [hcchain, hchain, List.length_append, hclen, index_add,
          tree_append hclen hpos hle']
      · intro u hu
        rw [← heq]
        exact hlt u hu
    · next hne =>
      refine .cons (.cons hlefts hclen hcchain hlt) hlen hchain ?_
      have hleft := hle left (List.mem_cons_self ..)
      intro u hu
      rcases List.mem_cons.1 hu with rfl | hu
      · omega
      · have := hlt u hu
        omega

/-- From the nearest subtree outwards, each is joined to the tree over all that follows it. -/
theorem foldl_above {lefts : List Subtree} {a : List UInt8} (hl : Covers lefts a) :
    ∀ {b : List UInt8}, (lefts ≠ [] → 0 < b.length) →
      (∀ t ∈ lefts, b.length ≤ 1024 * 2 ^ t.height) →
      lefts.foldl (fun right left => Node.above left.chain right.output)
        (tree (a.length / 1024) b) = tree 0 (a ++ b) := by
  induction hl with
  | nil => intro b _ _; rfl
  | @cons t lefts a c hlefts hlen hchain hlt ih =>
    intro b hpos hle
    have hb : 0 < b.length := hpos (by simp)
    have hbt := hle t (List.mem_cons_self ..)
    rw [List.foldl_cons, List.append_assoc, List.length_append, hlen, index_add, hchain,
      ← tree_append hlen hb hbt]
    refine ih (fun _ => by rw [List.length_append]; omega) ?_
    intro u hu
    have hpow : 2 ^ (t.height + 1) ≤ 2 ^ u.height := Nat.pow_le_pow_right (by decide) (hlt u hu)
    rw [Nat.pow_succ] at hpow
    rw [List.length_append, hlen]
    omega

/-! ## The whole message -/

/-- The octets `a` are in complete subtrees and the octets `b` in the open chunk, which is left
empty only as long as nothing has arrived. -/
structure Running.Holds (r : Running) (a b : List UInt8) : Prop where
  covers : Covers r.complete a
  length_eq : a.length = 1024 * r.index
  current : r.current.Holds r.index b
  length_le : b.length ≤ 1024
  pos : r.complete ≠ [] → 0 < b.length

namespace Running

variable {r : Running} {a b : List UInt8}

theorem holds_start : start.Holds [] [] :=
  ⟨.nil, rfl, OpenChunk.holds_start 0, Nat.zero_le 1024, fun h => absurd rfl h⟩

theorem holds_push (h : r.Holds a b) (x : UInt8) :
    ∃ a' b', (r.push x).Holds a' b' ∧ a' ++ b' = a ++ b ++ [x] := by
  have hindex : a.length / 1024 = r.index := by rw [h.length_eq]; omega
  unfold push
  split
  · next hfull =>
    have hlen : b.length = 1024 := h.current.isFull_iff.1 hfull
    -- A full chunk is closed only now that an octet follows it, so the last chunk stays open.
    refine ⟨a ++ b, [x], ⟨?_, ?_, ?_, by simp, by simp⟩, rfl⟩
    · refine covers_graft h.covers (by simpa using hlen) ?_ (fun u _ => Nat.zero_le u.height)
      rw [hindex, tree_of_length_le h.length_le, ← h.current.node_eq]
    · rw [List.length_append, h.length_eq, hlen, Nat.mul_succ]
    · exact OpenChunk.holds_push (OpenChunk.holds_start _) x
  · next hopen =>
    have hlen : b.length ≠ 1024 := fun he => hopen (h.current.isFull_iff.2 he)
    have hle := h.length_le
    have hcurrent := OpenChunk.holds_push h.current x
    refine ⟨a, b ++ [x], ⟨h.covers, h.length_eq, hcurrent, ?_, by simp⟩, by simp⟩
    rw [List.length_append, List.length_singleton]; omega

theorem holds_foldl_push (s : List UInt8) :
    ∀ {r : Running} {a b : List UInt8}, r.Holds a b →
      ∃ a' b', (s.foldl push r).Holds a' b' ∧ a' ++ b' = a ++ b ++ s := by
  induction s with
  | nil => intro r a b h; exact ⟨a, b, h, by simp⟩
  | cons x s ih =>
    intro r a b h
    obtain ⟨a₁, b₁, h₁, he₁⟩ := holds_push h x
    obtain ⟨a₂, b₂, h₂, he₂⟩ := ih h₁
    exact ⟨a₂, b₂, h₂, by rw [he₂, he₁]; simp⟩

theorem Holds.finish_eq (h : r.Holds a b) : r.finish = digest (a ++ b) := by
  have hindex : a.length / 1024 = r.index := by rw [h.length_eq]; omega
  have hle : ∀ t ∈ r.complete, b.length ≤ 1024 * 2 ^ t.height := by
    intro t _
    have := h.length_le
    have := Nat.two_pow_pos t.height
    omega
  have htree := foldl_above h.covers h.pos hle
  rw [hindex, tree_of_length_le h.length_le, ← h.current.node_eq] at htree
  unfold finish digest
  rw [htree]

/-- The digest of what has arrived is the digest of it as a whole. -/
theorem finish_foldl_push (s : List UInt8) : (s.foldl push start).finish = digest s := by
  obtain ⟨a, b, h, he⟩ := holds_foldl_push s holds_start
  rw [h.finish_eq, he]
  rfl

end Running

end BucketDigest.Hash.Blake3
