import BucketDigest.Proofs.Scan.Batch
import BucketDigest.Proofs.Wire.RoundTrip
import BucketDigest.Proofs.Wire.Vetting

/-!
# From document to document

A digester reads entries, digests them and writes the digests. It does what its two stages do in
memory, one after the other, and writes only after both have succeeded.

* `Fails`: how each stage can fail, after the stages before it have not.
* `digests_read_back`: digests have no timestamps, so that nothing of them is cut off in writing.

Main statement: `document_is_digested_or_untouched`.
-/
namespace BucketDigest.Digester

open Wire

/-- The first stage that fails: reading, which includes the check of the ids; setting up the scan;
or taking the entries, at the first that is refused. -/
inductive Fails (d : Digester) (collator : Collator) (source : Json.Source) : DigestError → Prop
  | reading {error : WireError} (h : (readEntries .cleanId source).outcome = .error error) :
      d.Fails collator source (.wire error)
  | setup {entries : List Entry} {error : SetupError}
      (hread : (readEntries .cleanId source).outcome = .ok entries)
      (h : Scan.ofSettings collator d.aggregations d.settings = .error error) :
      d.Fails collator source (.setup error)
  | taking {entries before after : List Entry} {x : Entry} {s s' : Scan} {error : ScanError}
      (hread : (readEntries .cleanId source).outcome = .ok entries)
      (hscan : d.scan collator = .ok s) (hsplit : entries = before ++ x :: after)
      (hbefore : s.addAll before = .ok s') (h : s'.add x = .error error) :
      d.Fails collator source (.scan error)

variable {d : Digester} {collator : Collator} {entries digests : List Entry}

/-! ## Digesting -/

theorem scan_eq_error_iff {error : DigestError} :
    d.scan collator = .error error ↔
      ∃ reason, Scan.ofSettings collator d.aggregations d.settings = .error reason ∧
        error = .setup reason := by
  unfold scan
  cases Scan.ofSettings collator d.aggregations d.settings <;> simp [eq_comm]

theorem filled_scan {s : Scan} (h : d.scan collator = .ok s) :
    Scan.Filled d.aggregations d.settings.algorithm [] s .empty := by
  obtain ⟨collation, s₀, -, hstart, rfl⟩ := exists_start_of_scan h
  exact Scan.filled_start hstart _

/-- Digests have no timestamps. -/
theorem lastUpdated_of_digest (h : d.digest collator entries = .ok digests) {x : Entry}
    (hx : x ∈ digests) : x.lastUpdated = none := by
  unfold digest at h
  cases hscan : d.scan collator with
  | error error => rw [hscan] at h; cases h
  | ok s =>
    rw [hscan] at h
    cases hadd : s.addAll entries with
    | error error => simp only [hadd] at h; cases h
    | ok s' =>
      simp only [hadd] at h
      cases h
      obtain ⟨hashes, hfilled⟩ := Scan.filled_addAll (filled_scan hscan) hadd
      rw [hfilled.digests_eq] at hx
      obtain ⟨key, -, rfl⟩ := List.mem_map.1 hx
      rfl

/-- Digests are read back unchanged. -/
theorem digests_read_back (h : d.digest collator entries = .ok digests) :
    (readQueryResult .acceptAll ⟨Text.bytes (queryResult digests), .closed⟩).outcome =
      .ok digests := by
  have haccepted : ∀ x ∈ digests, Validator.acceptAll x = .ok () := fun _ _ => rfl
  unfold readQueryResult
  rw [readCollection_queryResult (fun x hx => lastUpdated_of_digest h hx) haccepted]

/-! ## Documents -/

/-- The stages one after the other, where the writing cannot fail. -/
theorem digestDocument_eq (d : Digester) (collator : Collator) (source : Json.Source) :
    d.digestDocument collator source .unlimited =
      match (readEntries .cleanId source).outcome with
      | .error error => ⟨[], .error (.wire error)⟩
      | .ok entries =>
        match d.digest collator entries with
        | .error error => ⟨[], .error error⟩
        | .ok digests => ⟨Text.bytes (queryResult digests), .ok digests.length⟩ := rfl

theorem fails_iff (source : Json.Source) (error : DigestError) :
    d.Fails collator source error ↔
      (∃ reason, (readEntries .cleanId source).outcome = .error reason ∧ error = .wire reason) ∨
      ∃ entries, (readEntries .cleanId source).outcome = .ok entries ∧
        d.digest collator entries = .error error := by
  constructor
  · intro h
    cases h with
    | reading h => exact .inl ⟨_, h, rfl⟩
    | setup hread h =>
      refine .inr ⟨_, hread, ?_⟩
      have hscan := scan_eq_error_iff.2 ⟨_, h, rfl⟩
      simp only [digest, hscan]
    | taking hread hscan hsplit hbefore h =>
      refine .inr ⟨_, hread, (digest_eq_error_iff hscan _ _).2 ⟨_, ?_, rfl⟩⟩
      exact Scan.addAll_eq_error_iff_split.2 ⟨_, _, _, hsplit, _, hbefore, h⟩
  · intro hor
    rcases hor with ⟨reason, h, rfl⟩ | ⟨entries, hread, h⟩
    · exact .reading h
    · cases hscan : d.scan collator with
      | error error' =>
        obtain ⟨reason, hsetup, rfl⟩ := scan_eq_error_iff.1 hscan
        simp only [digest, hscan] at h
        cases h
        exact .setup hread hsetup
      | ok s =>
        obtain ⟨reason, hadd, rfl⟩ := (digest_eq_error_iff hscan _ _).1 h
        obtain ⟨before, x, after, hsplit, s', hbefore, hx⟩ := Scan.addAll_eq_error_iff_split.1 hadd
        exact .taking hread hscan hsplit hbefore hx

theorem outcome_eq_ok_iff (source : Json.Source) (n : Nat) :
    (d.digestDocument collator source .unlimited).outcome = .ok n ↔
      ∃ entries digests, (readEntries .cleanId source).outcome = .ok entries ∧
        d.digest collator entries = .ok digests ∧ n = digests.length := by
  rw [digestDocument_eq]
  cases (readEntries .cleanId source).outcome with
  | error error => simp
  | ok entries =>
    cases hdigest : d.digest collator entries <;> simp [hdigest, eq_comm]

theorem outcome_eq_error_iff (source : Json.Source) (error : DigestError) :
    (d.digestDocument collator source .unlimited).outcome = .error error ↔
      d.Fails collator source error := by
  rw [digestDocument_eq, fails_iff]
  cases (readEntries .cleanId source).outcome with
  | error reason => simp [eq_comm]
  | ok entries =>
    cases hdigest : d.digest collator entries <;> simp [hdigest]

theorem written_eq_nil {source : Json.Source} {error : DigestError}
    (h : (d.digestDocument collator source .unlimited).outcome = .error error) :
    (d.digestDocument collator source .unlimited).written = [] := by
  rw [digestDocument_eq] at h ⊢
  cases hread : (readEntries .cleanId source).outcome with
  | error reason => rfl
  | ok entries =>
    cases hdigest : d.digest collator entries with
    | error reason => simp only [hdigest]
    | ok digests =>
      simp only [hread, hdigest] at h
      cases h

/-- **Documents.** A digester succeeds on a document if and only if its entries can be read, with
ids that are in order, and digested in memory, and it gives the number of the digests. Then just
these are written, as a list that is read back unchanged. Otherwise it gives the error of the first
stage that fails, and nothing is written. -/
theorem document_is_digested_or_untouched (d : Digester) (collator : Collator)
    (source : Json.Source) :
    let delivery := d.digestDocument collator source .unlimited
    (∀ n, delivery.outcome = .ok n ↔
      ∃ entries digests, (readEntries .cleanId source).outcome = .ok entries ∧
        d.digest collator entries = .ok digests ∧ n = digests.length) ∧
    (∀ entries digests, (readEntries .cleanId source).outcome = .ok entries →
      d.digest collator entries = .ok digests →
        delivery.written = Text.bytes (queryResult digests) ∧
        (readQueryResult .acceptAll ⟨delivery.written, .closed⟩).outcome = .ok digests ∧
        ∀ x ∈ entries, ∀ id, x.id = some id → id ≠ "" ∧ ∀ c ∈ id.toList, isControl c = false) ∧
    ∀ error, (delivery.outcome = .error error ↔ d.Fails collator source error) ∧
      (delivery.outcome = .error error → delivery.written = []) := by
  intro delivery
  refine ⟨outcome_eq_ok_iff source, ?_, fun error =>
    ⟨outcome_eq_error_iff source error, written_eq_nil⟩⟩
  intro entries digests hread hdigest
  have hwritten : delivery.written = Text.bytes (queryResult digests) := by
    show (d.digestDocument collator source .unlimited).written = _
    simp only [digestDocument_eq, hread, hdigest]
  refine ⟨hwritten, ?_, fun x hx => ?_⟩
  · rw [hwritten]
    exact digests_read_back hdigest
  · exact (cleanId_eq_ok_iff x).1 (accepted_readEntries .cleanId source entries hread x hx)

/-- Two entries of a kind that has to be escaped come to one digest, which is written; in the other
order the second is refused, and nothing is written. Octet order needs no collator. -/
theorem document_is_digested_or_untouched_of_two_entries :
    let d : Digester := ⟨⟨.ascii, .md5⟩, [⟨"kind", .byName, none⟩]⟩
    let collator : Collator := .error "no data"
    let labels : Attributes := .ofList [("kind", "\"\n")]
    let first : Entry := .entity "1" "v1" labels
    let second : Entry := .entity "2" "v2" labels
    let source (entries : List Entry) : Json.Source :=
      ⟨Text.bytes (queryResult entries), .closed⟩
    let delivery := d.digestDocument collator (source [first, second]) .unlimited
    let refused := d.digestDocument collator (source [second, first]) .unlimited
    delivery.outcome = .ok 1 ∧
      (∃ digests, digests.map Entry.attributes = [labels] ∧
        (readQueryResult .acceptAll ⟨delivery.written, .closed⟩).outcome = .ok digests) ∧
      refused.outcome = .error (.scan (.outOfOrder "2" "1")) ∧ refused.written = [] := by
  intro d collator labels first second source delivery refused
  have hread : ∀ entries : List Entry, (∀ x ∈ entries, x = first ∨ x = second) →
      (readEntries .cleanId (source entries)).outcome = .ok entries := by
    intro entries hentries
    have hclean : ∀ x ∈ entries, x.lastUpdated = none ∧ Validator.cleanId x = .ok () := by
      intro x hx
      rcases hentries x hx with rfl | rfl
      · exact ⟨rfl, rfl⟩
      · exact ⟨rfl, rfl⟩
    unfold readEntries
    rw [readCollection_queryResult (fun x hx => (hclean x hx).1) fun x hx => (hclean x hx).2]
  have hdigest : d.digest collator [first, second] = .ok _ := rfl
  have hrefused : d.Fails collator (source [second, first]) (.scan (.outOfOrder "2" "1")) :=
    .taking (hread _ (by simp)) rfl (show [second, first] = [second] ++ first :: [] from rfl)
      rfl rfl
  obtain ⟨hok, hwritten, -⟩ :=
    document_is_digested_or_untouched d collator (source [first, second])
  obtain ⟨-, -, herror⟩ := document_is_digested_or_untouched d collator (source [second, first])
  have hfirst := hread [first, second] (by simp)
  refine ⟨(hok 1).2 ⟨_, _, hfirst, hdigest, rfl⟩, ⟨_, rfl, (hwritten _ _ hfirst hdigest).2.1⟩, ?_⟩
  have houtcome := (herror _).1.2 hrefused
  exact ⟨houtcome, (herror _).2 houtcome⟩

end BucketDigest.Digester
