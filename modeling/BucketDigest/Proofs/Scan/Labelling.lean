import BucketDigest.Proofs.Scan.Digests

/-!
# The hash function of a bucket

Another hash function can be chosen at any time. A bucket keeps the one that was chosen when its
first entry arrived; a scan ends with the one that was chosen last.

* `arrivals`: the entries taken in a run, each with the hash function chosen when it arrived.
* `Kept` is the invariant: the buckets, filling or closed, are hashed with the hash function of
  their first arrival. `kept_run` carries it through a run of any calls.
* `sealed_label_is_right_iff`: the digests are those of the hash function that the finished scan is
  labelled with if and only if that is the one with which every bucket was opened.
-/
namespace BucketDigest

/-! ## Digests tell the hash functions apart -/

theorem Hash.length_hex (s : List UInt8) : (Hash.hex s).length = 2 * s.length := by
  unfold Hash.hex
  rw [String.length_ofList]
  induction s with
  | nil => rfl
  | cons b s ih => rw [List.flatMap_cons, List.length_append, ih, List.length_cons]; simp; omega

/-- How many characters a digest has. -/
def Algorithm.digestLength : Algorithm → Nat
  | .md5 => 32
  | .blake3 => 64

theorem Algorithm.length_hexDigest (algorithm : Algorithm) (s : List UInt8) :
    (algorithm.hexDigest s).length = algorithm.digestLength := by
  cases algorithm with
  | md5 => exact Hash.length_hex _
  | blake3 => exact Hash.length_hex _

theorem Algorithm.hexDigest_ne {a b : Algorithm} (h : a ≠ b) (s t : List UInt8) :
    a.hexDigest s ≠ b.hexDigest t := by
  intro he
  have hlen := congrArg String.length he
  rw [length_hexDigest, length_hexDigest] at hlen
  cases a <;> cases b <;> simp_all [digestLength]

/-! ## What has arrived -/

/-- The hash function chosen after a call, where `algorithm` was chosen before. -/
def Call.chosen (algorithm : Algorithm) : Call → Algorithm
  | .withAlgorithm chosen => chosen
  | _ => algorithm

/-- The entries that a record shows to have been taken, each with the hash function that was chosen
when it arrived; `algorithm` is chosen at the start of the record. -/
def arrivals (algorithm : Algorithm) : List (Call × Answer) → List (Algorithm × Entry)
  | [] => []
  | x :: record => (taken [x]).map (algorithm, ·) ++ arrivals (x.1.chosen algorithm) record

theorem map_snd_arrivals (algorithm : Algorithm) (record : List (Call × Answer)) :
    (arrivals algorithm record).map Prod.snd = taken record := by
  induction record generalizing algorithm with
  | nil => rfl
  | cons x record ih =>
    have hfst : (Prod.snd ∘ fun e : Entry => (algorithm, e)) = id := rfl
    rw [arrivals, List.map_append, ih, List.map_map, hfst, List.map_id]
    exact (taken_cons x record).symm

/-- The hash function that was chosen when the first entry of a bucket arrived. -/
def opener? (aggregations : List Aggregation) (arrived : List (Algorithm × Entry))
    (key : Attributes) : Option Algorithm :=
  (arrived.find? fun x => bucketOf aggregations x.2.attributes = .ok key).map Prod.fst

/-- The versions of the entries of a bucket, put together in order of arrival. -/
def bucketOctets (aggregations : List Aggregation) (history : List Entry) (key : Attributes) :
    List UInt8 :=
  versionOctets (members aggregations history key)

/-- The running hash of a bucket, if it has been opened. -/
def openedHash (aggregations : List Aggregation) (arrived : List (Algorithm × Entry))
    (key : Attributes) : Option RunningHash :=
  (opener? aggregations arrived key).map fun a =>
    (RunningHash.start a).feed (bucketOctets aggregations (arrived.map Prod.snd) key)

section
variable {aggregations : List Aggregation} {arrived : List (Algorithm × Entry)} {e : Entry}
  {key key' : Attributes}

theorem opener?_append_of_ne (h : bucketOf aggregations e.attributes = .ok key) (hne : key' ≠ key)
    (algorithm : Algorithm) :
    opener? aggregations (arrived ++ [(algorithm, e)]) key' =
      opener? aggregations arrived key' := by
  simp [opener?, List.find?_append, h, Ne.symm hne]

theorem opener?_append_self (h : bucketOf aggregations e.attributes = .ok key)
    (algorithm : Algorithm) :
    opener? aggregations (arrived ++ [(algorithm, e)]) key =
      some ((opener? aggregations arrived key).getD algorithm) := by
  unfold opener?
  rw [List.find?_append]
  cases arrived.find? fun x => bucketOf aggregations x.2.attributes = .ok key <;> simp [h]

theorem members_eq_nil_of_opener? (h : opener? aggregations arrived key = none) :
    members aggregations (arrived.map Prod.snd) key = [] := by
  simp only [opener?, Option.map_eq_none_iff, List.find?_eq_none] at h
  simp only [members, List.filter_eq_nil_iff, List.mem_map]
  intro e hmem
  obtain ⟨x, hx, rfl⟩ := hmem
  exact h x hx

/-- An entry that arrives goes to the hash of its own bucket, which it opens if need be. -/
theorem openedHash_append_self (h : bucketOf aggregations e.attributes = .ok key)
    (algorithm : Algorithm) :
    openedHash aggregations (arrived ++ [(algorithm, e)]) key =
      some (((openedHash aggregations arrived key).getD (.start algorithm)).feed
        (Text.bytes e.version)) := by
  unfold openedHash
  rw [opener?_append_self h]
  unfold bucketOctets
  rw [List.map_append, List.map_singleton, members_append_self h]
  unfold versionOctets
  rw [List.flatMap_append, List.flatMap_singleton]
  cases hopener : opener? aggregations arrived key with
  | none =>
    rw [members_eq_nil_of_opener? hopener]
    rfl
  | some a => exact congrArg some (RunningHash.feed_append ..)

theorem openedHash_append_of_ne (h : bucketOf aggregations e.attributes = .ok key)
    (hne : key' ≠ key) (algorithm : Algorithm) :
    openedHash aggregations (arrived ++ [(algorithm, e)]) key' =
      openedHash aggregations arrived key' := by
  unfold openedHash bucketOctets
  rw [opener?_append_of_ne h hne, List.map_append, List.map_singleton,
    members_append_of_ne h hne]

end

namespace Scan

/-! ## The invariant -/

/-- The buckets, filling or closed, hold the hashes of what has arrived. -/
structure Kept (aggregations : List Aggregation) (arrived : List (Algorithm × Entry)) (s : Scan) :
    Prop where
  aggregations_eq : s.aggregations = aggregations
  exists_hashes : ∃ hashes : SortedMap Attributes RunningHash,
    (∀ key, hashes.get? key = openedHash aggregations arrived key) ∧
    (s.buckets = .filling hashes ∨
      s.buckets = .closed (hashes.entries.map fun b => Entry.aggregate b.2.finish b.1))

variable {aggregations : List Aggregation} {arrived : List (Algorithm × Entry)} {s : Scan}

theorem kept_start {collation : Collation} (h : start aggregations collation = .ok s) :
    Kept aggregations [] s := by
  obtain ⟨-, rfl⟩ := start_eq_ok_iff.1 h
  exact ⟨rfl, .empty, fun _ => rfl, .inl rfl⟩

theorem Kept.withAlgorithm (h : Kept aggregations arrived s) (algorithm : Algorithm) :
    Kept aggregations arrived (s.withAlgorithm algorithm) :=
  ⟨h.aggregations_eq, h.exists_hashes⟩

theorem Kept.sealed (h : Kept aggregations arrived s) : Kept aggregations arrived s.sealed := by
  obtain ⟨haggregations, hashes, hget, hbuckets⟩ := h
  refine ⟨haggregations, hashes, hget, .inr (congrArg Buckets.closed ?_)⟩
  unfold digests
  rcases hbuckets with hb | hb <;> rw [hb]

theorem Kept.extend (h : Kept aggregations arrived s)
    {hashes : SortedMap Attributes RunningHash} (hb : s.buckets = .filling hashes) {e : Entry}
    {key : Attributes} (hkey : bucketOf s.aggregations e.attributes = .ok key) :
    Kept aggregations (arrived ++ [(s.algorithm, e)]) (s.extend hashes key e) := by
  obtain ⟨haggregations, hashes', hget, hbuckets⟩ := h
  rw [hb] at hbuckets
  obtain rfl : hashes = hashes' := by
    rcases hbuckets with h | h <;> cases h
    rfl
  rw [haggregations] at hkey
  refine ⟨haggregations, _, fun key' => ?_, .inl rfl⟩
  by_cases hk : key' = key
  · subst hk
    rw [SortedMap.get?_upsert_self, hget, openedHash_append_self hkey]
  · rw [SortedMap.get?_upsert_of_ne _ hk, hget, openedHash_append_of_ne hkey hk]

theorem algorithm_step (s : Scan) (call : Call) :
    (s.step call).1.algorithm = call.chosen s.algorithm := by
  have hadd : ∀ e, (s.step (.add e)).1.algorithm = s.algorithm := by
    intro e
    rw [step_add]
    rcases offer_cases s e with ⟨error, he⟩ | ⟨hashes, key, -, -, -, he⟩ <;> rw [he]
    rfl
  cases call with
  | add e => exact hadd e
  | addEntity id attributes version => exact hadd _
  | withAlgorithm algorithm => rfl
  | digests => rfl
  | isSealed => rfl
  | bucketCount => rfl
  | entryCount => rfl

theorem kept_step (h : Kept aggregations arrived s) (call : Call) :
    Kept aggregations (arrived ++ (taken [(call, (s.step call).2)]).map (s.algorithm, ·))
      (s.step call).1 := by
  -- The hash function in force during the step is that of `s`, whatever the step makes of it.
  let P (history : List Entry) (s' : Scan) : Prop :=
    Kept aggregations (arrived ++ history.map (s.algorithm, ·)) s'
  have hs : P [] s := by simpa [P] using h
  have hstep := step_preserves hs (fun hashes key e hb _ hkey => h.extend hb hkey)
    (fun algorithm => hs.withAlgorithm algorithm) hs.sealed call
  exact hstep

theorem kept_run (calls : List Call) : ∀ {arrived : List (Algorithm × Entry)} {s : Scan},
    Kept aggregations arrived s →
      Kept aggregations (arrived ++ arrivals s.algorithm (s.run calls).2) (s.run calls).1 := by
  induction calls with
  | nil => intro arrived s h; simpa [arrivals] using h
  | cons call calls ih =>
    intro arrived s h
    rw [run_cons, arrivals, ← algorithm_step, ← List.append_assoc]
    exact ih (kept_step h call)

/-! ## The label -/

/-- Each bucket that was opened is listed with the digest of the hash function that opened it. -/
theorem Kept.mem_digests_iff (h : Kept aggregations arrived s) (d : Entry) :
    d ∈ s.digests ↔ ∃ key opener, opener? aggregations arrived key = some opener ∧
      d = .aggregate
        (opener.hexDigest (bucketOctets aggregations (arrived.map Prod.snd) key)) key := by
  obtain ⟨-, hashes, hget, hbuckets⟩ := h
  have hdigests : s.digests = hashes.entries.map fun b => Entry.aggregate b.2.finish b.1 := by
    unfold digests
    rcases hbuckets with hb | hb <;> rw [hb]
  simp only [hdigests, List.mem_map, Prod.exists, SortedMap.mem_entries_iff, hget, openedHash,
    Option.map_eq_some_iff]
  constructor
  · intro hex
    obtain ⟨key, hash, ⟨opener, hopener, rfl⟩, rfl⟩ := hex
    exact ⟨key, opener, hopener, congrArg (Entry.aggregate · key)
      (RunningHash.finish_feed_start ..)⟩
  · intro hex
    obtain ⟨key, opener, hopener, rfl⟩ := hex
    exact ⟨key, _, ⟨opener, hopener, rfl⟩, congrArg (Entry.aggregate · key)
      (RunningHash.finish_feed_start ..)⟩

/-- **The label of a finished scan.** Whatever calls are made on a scan from its start on, the
finished scan lists one digest for each bucket that was opened, and it is the digest, by the hash
function that was chosen when the first entry of the bucket arrived, of the versions in the bucket
in order of arrival. So all of them are digests by the hash function that the finished scan is
labelled with if and only if every bucket was opened with that one. -/
theorem sealed_label_is_right_iff {aggregations : List Aggregation} {collation : Collation}
    {s : Scan} (h : start aggregations collation = .ok s) (calls : List Call) :
    let r := s.run calls
    let opener := opener? aggregations (arrivals s.algorithm r.2)
    let octets := bucketOctets aggregations (taken r.2)
    let result := SealedDigests.ofScan r.1
    (∀ d, d ∈ result.entries ↔
      ∃ key a, opener key = some a ∧ d = .aggregate (a.hexDigest (octets key)) key) ∧
    ((∀ d ∈ result.entries, d.version = result.algorithm.hexDigest (octets d.attributes)) ↔
      ∀ key a, opener key = some a → a = result.algorithm) := by
  intro r opener octets result
  have hkept : Kept aggregations (arrivals s.algorithm r.2) r.1 := kept_run calls (kept_start h)
  have hmem : ∀ d, d ∈ result.entries ↔
      ∃ key a, opener key = some a ∧ d = .aggregate (a.hexDigest (octets key)) key := by
    have hiff := hkept.mem_digests_iff
    rw [map_snd_arrivals] at hiff
    exact hiff
  refine ⟨hmem, ?_, ?_⟩
  · intro hright key a hopener
    by_contra hne
    exact Algorithm.hexDigest_ne hne _ _ (hright _ ((hmem _).2 ⟨key, a, hopener, rfl⟩))
  · intro hopened d hd
    obtain ⟨key, a, hopener, rfl⟩ := (hmem d).1 hd
    rw [hopened key a hopener]
    rfl

/-- The hash function is chosen before the first entry and chosen again, the same, after it. -/
theorem sealed_label_is_right_of_early_choice :
    let aggregations : List Aggregation := [⟨"kind", .byName, none⟩]
    let s : Scan := ⟨aggregations, .ascii, .md5, none, 0, .filling .empty⟩
    let e : Entry := .entity "1" "v1" (.ofList [("kind", "x")])
    let r := s.run [.withAlgorithm .blake3, .add e, .withAlgorithm .blake3, .digests]
    start aggregations .ascii = .ok s ∧
      opener? aggregations (arrivals .md5 r.2) e.attributes = some .blake3 ∧
      ∀ d ∈ (SealedDigests.ofScan r.1).entries,
        d.version = Algorithm.blake3.hexDigest
          (bucketOctets aggregations (taken r.2) d.attributes) := by
  intro aggregations s e r
  have hstart : start aggregations .ascii = .ok s := rfl
  have hiff := (sealed_label_is_right_iff hstart
    [.withAlgorithm .blake3, .add e, .withAlgorithm .blake3, .digests]).2
  refine ⟨hstart, rfl, hiff.2 ?_⟩
  intro key a hopener
  -- The only arrival was hashed by BLAKE3, whatever bucket is asked for.
  obtain ⟨x, hfind, rfl⟩ := Option.map_eq_some_iff.1 hopener
  have hx : x = (.blake3, e) := List.mem_singleton.1 (List.mem_of_find?_eq_some hfind)
  rw [hx]
  rfl

/-- An entry arrives while MD5 is chosen, and BLAKE3 is chosen before the end: the finished scan is
labelled with BLAKE3, and its only digest is none of BLAKE3. -/
theorem sealed_label_is_wrong_after_late_choice :
    let aggregations : List Aggregation := [⟨"kind", .byName, none⟩]
    let s : Scan := ⟨aggregations, .ascii, .md5, none, 0, .filling .empty⟩
    let e : Entry := .entity "1" "v1" (.ofList [("kind", "x")])
    let r := s.run [.add e, .withAlgorithm .blake3]
    let result := SealedDigests.ofScan r.1
    start aggregations .ascii = .ok s ∧ taken r.2 = [e] ∧ result.algorithm = .blake3 ∧
      ∃ d ∈ result.entries, d.version ≠ result.algorithm.hexDigest
        (bucketOctets aggregations (taken r.2) d.attributes) := by
  intro aggregations s e r result
  have hkept : Kept aggregations (arrivals .md5 r.2) r.1 :=
    kept_run [.add e, .withAlgorithm .blake3] (kept_start (s := s) rfl)
  refine ⟨rfl, rfl, rfl, _, (hkept.mem_digests_iff _).2 ⟨e.attributes, .md5, rfl, rfl⟩, ?_⟩
  exact Algorithm.hexDigest_ne (show Algorithm.md5 ≠ .blake3 by decide) _ _

end Scan

end BucketDigest
