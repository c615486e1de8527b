import BucketDigest.Algorithm
import BucketDigest.Proofs.Hash.Blake3

/-!
# Running hashes

A running hash takes the versions of a bucket one at a time; `Algorithm.hexDigest` sees them all at
once. Main statement: `finish_feed_start`, both give the same digest, however the octets were cut
into pieces (`RunningHash.feed_append`).
-/
namespace BucketDigest

/-! ## MD5 -/

namespace Hash.Md5

theorem pieces_append {n : Nat} {p : List UInt8} (hp : p.length = n + 1) (s : List UInt8) :
    pieces n (p ++ s) = p :: pieces n s := by
  cases p with
  | nil => simp at hp
  | cons b p =>
    have hlen : p.length = n := by simpa using hp
    rw [List.cons_append, pieces, List.take_left' hlen, List.drop_left' hlen]

/-- The octets `s` have arrived: whatever follows, the blocks of the whole are hashed from where the
running hash stands. -/
structure Running.Holds (r : Running) (s : List UInt8) : Prop where
  size_lt : r.pending.size < 64
  length_eq : r.length = s.length
  rest : ∀ t, (pieces 63 (s ++ t)).foldl compress .initial =
    (pieces 63 (r.pending.toList ++ t)).foldl compress r.state

namespace Running

theorem holds_start : start.Holds [] := ⟨by decide, rfl, fun _ => rfl⟩

theorem holds_push {r : Running} {s : List UInt8} (h : r.Holds s) (b : UInt8) :
    (r.push b).Holds (s ++ [b]) := by
  obtain ⟨hsize, hlen, hrest⟩ := h
  unfold push
  simp only
  split
  · next hfull =>
    have hblock : (r.pending.toList ++ [b]).length = 63 + 1 := by simpa using hfull
    refine ⟨by simp, by simp [hlen], fun t => ?_⟩
    rw [List.append_assoc, hrest, ← List.append_assoc, pieces_append hblock]
    simp
  · next hne =>
    refine ⟨by simp at hne ⊢; omega, by simp [hlen], fun t => ?_⟩
    rw [List.append_assoc, hrest]
    simp

theorem holds_foldl_push (s : List UInt8) : ∀ {r : Running} {t : List UInt8}, r.Holds t →
    (s.foldl push r).Holds (t ++ s) := by
  induction s with
  | nil => intro r t h; simpa using h
  | cons b s ih => intro r t h; simpa using ih (holds_push h b)

/-- The digest of what has arrived is the digest of it as a whole. -/
theorem finish_foldl_push (s : List UInt8) : (s.foldl push start).finish = digest s := by
  have h := holds_foldl_push s holds_start
  unfold finish digest
  rw [h.length_eq, ← h.rest]
  rfl

end Running

end Hash.Md5

/-! ## Either algorithm -/

namespace RunningHash

/-- The running hash agrees with the digest of the whole. -/
theorem finish_feed_start (algorithm : Algorithm) (s : List UInt8) :
    (feed s (start algorithm)).finish = algorithm.hexDigest s := by
  cases algorithm with
  | md5 => exact congrArg Hash.hex (Hash.Md5.Running.finish_foldl_push s)
  | blake3 => exact congrArg Hash.hex (Hash.Blake3.Running.finish_foldl_push s)

end RunningHash

end BucketDigest
