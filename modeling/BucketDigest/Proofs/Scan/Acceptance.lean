import BucketDigest.Digester
import BucketDigest.Proofs.Collation
import BucketDigest.Proofs.Scan.BucketKey
import BucketDigest.Proofs.Scan.History

/-!
# Which entries are taken

A scan compares an id with the last one only. Where ids are totally preordered that keeps all of
them in order (`Ordered`), so that an entry is taken if and only if it is `Admissible` after the
whole history, and else is refused for the reason that `Refused` gives.

* `offer_eq_ok_iff` and `offer_eq_error_iff`: one entry, after any history.
* `addAll_eq_ok_iff` and `addAll_eq_error_iff`: entries one after the other, up to the first that is
  refused.
* `acceptance_is_exact` puts both together for scans and for digesters.
-/
namespace BucketDigest

/-- An entry that can follow a history: its id sorts below none of the ids before it, and every
aggregation gives it a label. -/
structure Admissible (aggregations : List Aggregation) (collation : Collation)
    (history : List Entry) (e : Entry) : Prop where
  ordered : ∀ id, e.id = some id → ∀ x ∈ history, ∀ id', x.id = some id' →
    collation.compare id' id ≠ .gt
  labelled : ∀ a ∈ aggregations, ∃ label, a.Gives e.attributes label

/-- The id of an entry sorts below the last id of a history. -/
def SortsBelow (collation : Collation) (history : List Entry) (e : Entry) (last id : String) :
    Prop :=
  lastId? history = some last ∧ e.id = some id ∧ collation.compare last id = .gt

/-- Why an entry cannot follow a history: its id sorts below the last one, whatever else is wrong
with it; or it does not, and this is what the first aggregation says that gives no label. -/
inductive Refused (aggregations : List Aggregation) (collation : Collation)
    (history : List Entry) (e : Entry) : ScanError → Prop
  | outOfOrder {last id : String} (h : SortsBelow collation history e last id) :
      Refused aggregations collation history e (.outOfOrder last id)
  | unlabelled {before after : List Aggregation} {a : Aggregation} {error : ScanError}
      (horder : ∀ last id, ¬ SortsBelow collation history e last id)
      (hsplit : aggregations = before ++ a :: after)
      (hbefore : ∀ b ∈ before, ∃ label, b.Gives e.attributes label)
      (ha : a.Refuses e.attributes error) : Refused aggregations collation history e error

/-- Each entry is admissible after the history and the entries before it. -/
def AllAdmissible (aggregations : List Aggregation) (collation : Collation)
    (history entries : List Entry) : Prop :=
  ∀ before e after, entries = before ++ e :: after →
    Admissible aggregations collation (history ++ before) e

section
variable {aggregations : List Aggregation} {collation : Collation} {history : List Entry}

theorem allAdmissible_nil : AllAdmissible aggregations collation history [] := by
  intro before e after he
  cases before <;> cases he

theorem allAdmissible_cons {e : Entry} {rest : List Entry} :
    AllAdmissible aggregations collation history (e :: rest) ↔
      Admissible aggregations collation history e ∧
        AllAdmissible aggregations collation (history ++ [e]) rest := by
  constructor
  · intro h
    refine ⟨by simpa using h [] e rest rfl, ?_⟩
    intro before x after hsplit
    subst hsplit
    simpa using h (e :: before) x after rfl
  · intro hboth before x after hsplit
    obtain ⟨he, hrest⟩ := hboth
    cases before with
    | nil => cases hsplit; simpa using he
    | cons y before => cases hsplit; simpa using hrest before x after rfl

end

/-! ## The order of the ids -/

/-- No id sorts below an earlier one. -/
def Ordered (collation : Collation) (history : List Entry) : Prop :=
  (history.filterMap Entry.id).Pairwise fun id id' => collation.compare id id' ≠ .gt

section
variable {collation : Collation} [Std.TransCmp collation.compare] {history : List Entry}

/-- What does not sort below the last id sorts below none. -/
theorem Ordered.ne_gt_of_last (h : Ordered collation history) {last id : String}
    (hlast : lastId? history = some last) (hid : collation.compare last id ≠ .gt) :
    ∀ id' ∈ history.filterMap Entry.id, collation.compare id' id ≠ .gt := by
  obtain ⟨ids, hids⟩ := List.getLast?_eq_some_iff.1 hlast
  unfold Ordered at h
  rw [hids] at h ⊢
  intro id' hmem
  rcases List.mem_append.1 hmem with hmem | hmem
  · exact Collation.ne_gt_trans ((List.pairwise_append.1 h).2.2 id' hmem last (by simp)) hid
  · rw [List.mem_singleton.1 hmem]; exact hid

theorem Ordered.append (h : Ordered collation history) {e : Entry}
    (he : ∀ last id, ¬ SortsBelow collation history e last id) :
    Ordered collation (history ++ [e]) := by
  unfold Ordered
  rw [filterMap_id_append, List.pairwise_append]
  refine ⟨h, ?_, fun id' hmem id hid => ?_⟩
  · cases e.id <;> simp
  · have hid : e.id = some id := by simpa using hid
    cases hlast : lastId? history with
    | none =>
      rw [List.getLast?_eq_none_iff.1 hlast] at hmem
      cases hmem
    | some last => exact h.ne_gt_of_last hlast (fun hgt => he last id ⟨hlast, hid, hgt⟩) id' hmem

/-- Against an ordered history it is enough to look at the last id. -/
theorem Ordered.forall_ne_gt_iff (h : Ordered collation history) (e : Entry) :
    (∀ id, e.id = some id → ∀ x ∈ history, ∀ id', x.id = some id' →
      collation.compare id' id ≠ .gt) ↔ ∀ last id, ¬ SortsBelow collation history e last id := by
  constructor
  · intro hall last id hbelow
    obtain ⟨hlast, hid, hgt⟩ := hbelow
    obtain ⟨x, hx, hxid⟩ := List.mem_filterMap.1 (List.mem_of_getLast? hlast)
    exact hall id hid x hx last hxid hgt
  · intro hnone id hid x hx id' hid'
    have hmem : id' ∈ history.filterMap Entry.id := List.mem_filterMap.2 ⟨x, hx, hid'⟩
    cases hlast : lastId? history with
    | none =>
      rw [List.getLast?_eq_none_iff.1 hlast] at hmem
      cases hmem
    | some last =>
      exact h.ne_gt_of_last hlast (fun hgt => hnone last id ⟨hlast, hid, hgt⟩) id' hmem

end

/-! ## One entry -/

theorem SortsBelow.unique {collation : Collation} {history : List Entry} {e : Entry}
    {last id last' id' : String} (h : SortsBelow collation history e last id)
    (h' : SortsBelow collation history e last' id') : last = last' ∧ id = id' :=
  ⟨Option.some.inj (h.1.symm.trans h'.1), Option.some.inj (h.2.1.symm.trans h'.2.1)⟩

theorem admissible_iff {aggregations : List Aggregation} {collation : Collation}
    [Std.TransCmp collation.compare] {history : List Entry} (hord : Ordered collation history)
    (e : Entry) :
    Admissible aggregations collation history e ↔
      (∀ last id, ¬ SortsBelow collation history e last id) ∧
        ∃ key, bucketOf aggregations e.attributes = .ok key := by
  rw [exists_bucketOf_iff, ← hord.forall_ne_gt_iff]
  exact ⟨fun h => ⟨h.ordered, h.labelled⟩, fun h => ⟨h.1, h.2⟩⟩

theorem refused_iff {aggregations : List Aggregation} {collation : Collation}
    {history : List Entry} {e : Entry} {error : ScanError} :
    Refused aggregations collation history e error ↔
      (∃ last id, SortsBelow collation history e last id ∧ error = .outOfOrder last id) ∨
        (∀ last id, ¬ SortsBelow collation history e last id) ∧
          bucketOf aggregations e.attributes = .error error := by
  rw [bucketOf_eq_error_iff]
  constructor
  · intro hor
    rcases hor with hbelow | ⟨horder, hsplit, hbefore, ha⟩
    · exact .inl ⟨_, _, hbelow, rfl⟩
    · exact .inr ⟨horder, _, _, _, hsplit, hbefore, ha⟩
  · intro hor
    rcases hor with ⟨last, id, hbelow, rfl⟩ | ⟨horder, before, a, after, hsplit, hbefore, ha⟩
    · exact .outOfOrder hbelow
    · exact .unlabelled horder hsplit hbefore ha

namespace Scan

variable {aggregations : List Aggregation} {collation : Collation} {history : List Entry} {s : Scan}

theorem checkOrder_cases (h : Recorded aggregations collation history s) (e : Entry) :
    (∃ last id, SortsBelow collation history e last id ∧
      s.checkOrder e = .error (.outOfOrder last id)) ∨
    (∀ last id, ¬ SortsBelow collation history e last id) ∧ s.checkOrder e = .ok () := by
  unfold checkOrder SortsBelow
  rw [h.lastId_eq, h.collation_eq]
  cases hlast : lastId? history with
  | none => exact .inr ⟨by simp, rfl⟩
  | some last =>
    cases hid : e.id with
    | none => exact .inr ⟨by simp, rfl⟩
    | some id =>
      cases hord : collation.inOrder last id with
      | true =>
        have hne := (collation.inOrder_iff last id).1 hord
        refine .inr ⟨?_, by simp [hord]⟩
        intro last' id' hbelow
        obtain ⟨hlast', hid', hgt⟩ := hbelow
        cases hlast'
        cases hid'
        exact hne hgt
      | false =>
        have hgt := (collation.inOrder_eq_false_iff last id).1 hord
        exact .inl ⟨last, id, ⟨rfl, rfl, hgt⟩, by simp [hord]⟩

/-- The checks of an offer in turn. -/
theorem offer_open (hopen : s.isSealed = false) (e : Entry) :
    (s.offer e).2 =
      match s.checkOrder e with
      | .error error => .error error
      | .ok () => (bucketOf s.aggregations e.attributes).map fun _ => () := by
  cases hb : s.buckets with
  | closed digests => simp [isSealed, hb] at hopen
  | filling hashes =>
    rw [offer_filling hb]
    cases s.checkOrder e with
    | error error => rfl
    | ok u => cases bucketOf s.aggregations e.attributes <;> rfl

theorem offer_eq_ok_iff [Std.TransCmp collation.compare]
    (h : Recorded aggregations collation history s) (hord : Ordered collation history)
    (hopen : s.isSealed = false) (e : Entry) :
    (s.offer e).2 = .ok () ↔ Admissible aggregations collation history e := by
  rw [admissible_iff hord, offer_open hopen, h.aggregations_eq]
  rcases checkOrder_cases h e with ⟨last, id, hbelow, hcheck⟩ | ⟨hnone, hcheck⟩
  · rw [hcheck]
    exact ⟨nofun, fun hadm => absurd hbelow (hadm.1 last id)⟩
  · rw [hcheck]
    cases bucketOf aggregations e.attributes with
    | error error => exact ⟨nofun, fun ⟨_, _, hkey⟩ => nomatch hkey⟩
    | ok key => exact ⟨fun _ => ⟨hnone, key, rfl⟩, fun _ => rfl⟩

theorem offer_eq_error_iff (h : Recorded aggregations collation history s)
    (hopen : s.isSealed = false) (e : Entry) (error : ScanError) :
    (s.offer e).2 = .error error ↔ Refused aggregations collation history e error := by
  rw [refused_iff, offer_open hopen, h.aggregations_eq]
  rcases checkOrder_cases h e with ⟨last, id, hbelow, hcheck⟩ | ⟨hnone, hcheck⟩
  · rw [hcheck]
    constructor
    · intro he; cases he; exact .inl ⟨last, id, hbelow, rfl⟩
    · intro hor
      rcases hor with ⟨last', id', hbelow', rfl⟩ | ⟨hnone, -⟩
      · obtain ⟨rfl, rfl⟩ := hbelow.unique hbelow'; rfl
      · exact absurd hbelow (hnone last id)
  · rw [hcheck]
    cases bucketOf aggregations e.attributes with
    | error error' =>
      constructor
      · intro he; cases he; exact .inr ⟨hnone, rfl⟩
      · intro hor
        rcases hor with ⟨last, id, hbelow, -⟩ | ⟨-, he⟩
        · exact absurd hbelow (hnone last id)
        · cases he; rfl
    | ok key =>
      refine ⟨nofun, ?_⟩
      intro hor
      rcases hor with ⟨last, id, hbelow, -⟩ | ⟨-, he⟩
      · exact absurd hbelow (hnone last id)
      · cases he

/-! ## Entries one after the other -/

/-- The invariant of a run: its history is recorded and in order. -/
structure Orderly (aggregations : List Aggregation) (collation : Collation)
    (history : List Entry) (s : Scan) : Prop where
  recorded : Recorded aggregations collation history s
  ordered : Ordered collation history

theorem orderly_start (h : start aggregations collation = .ok s) :
    Orderly aggregations collation [] s := ⟨recorded_start h, .nil⟩

theorem Orderly.extend [Std.TransCmp collation.compare]
    (h : Orderly aggregations collation history s) {e : Entry} (hcheck : s.checkOrder e = .ok ())
    (hashes : SortedMap Attributes RunningHash) (key : Attributes) :
    Orderly aggregations collation (history ++ [e]) (s.extend hashes key e) := by
  refine ⟨h.recorded.extend hashes key e, h.ordered.append ?_⟩
  rcases checkOrder_cases h.recorded e with ⟨last, id, -, herror⟩ | ⟨hnone, -⟩
  · rw [hcheck] at herror; cases herror
  · exact hnone

theorem orderly_run [Std.TransCmp collation.compare] (h : Orderly aggregations collation history s)
    (calls : List Call) :
    Orderly aggregations collation (history ++ taken (s.run calls).2) (s.run calls).1 := by
  refine run_preserves (fun history s call _ h => ?_) h
  have hr := h.recorded
  exact step_preserves h (fun hashes key e _ hcheck _ => h.extend hcheck hashes key)
    (fun algorithm => ⟨hr.withAlgorithm algorithm, h.ordered⟩)
    ⟨⟨hr.aggregations_eq, hr.collation_eq, hr.lastId_eq, hr.entryCount_eq⟩, h.ordered⟩ call

theorem add_eq_ok_iff [Std.TransCmp collation.compare]
    (h : Orderly aggregations collation history s) (hopen : s.isSealed = false) (e : Entry) :
    (∃ s', s.add e = .ok s') ↔ Admissible aggregations collation history e := by
  rw [← offer_eq_ok_iff h.recorded h.ordered hopen, offer_eq]
  cases s.add e <;> simp

theorem add_eq_error_iff (h : Orderly aggregations collation history s)
    (hopen : s.isSealed = false) (e : Entry) (error : ScanError) :
    s.add e = .error error ↔ Refused aggregations collation history e error := by
  rw [← offer_eq_error_iff h.recorded hopen, offer_eq]
  cases s.add e <;> simp

section
variable [Std.TransCmp collation.compare]

theorem Orderly.add (h : Orderly aggregations collation history s) {e : Entry} {s' : Scan}
    (hadd : s.add e = .ok s') :
    Orderly aggregations collation (history ++ [e]) s' ∧ s'.isSealed = false := by
  have hoffer := offer_eq s e
  rw [hadd] at hoffer
  rcases offer_cases s e with ⟨error, he⟩ | ⟨hashes, key, -, hcheck, -, he⟩
  · rw [he] at hoffer; cases hoffer
  · rw [he] at hoffer
    cases hoffer
    exact ⟨h.extend hcheck hashes key, rfl⟩

theorem addAll_cons (s : Scan) (e : Entry) (rest : List Entry) :
    s.addAll (e :: rest) =
      match s.add e with
      | .ok s' => s'.addAll rest
      | .error error => .error error := by
  unfold addAll
  rw [List.foldlM_cons]
  cases s.add e <;> rfl

theorem addAll_eq_ok_iff {entries : List Entry} (h : Orderly aggregations collation history s)
    (hopen : s.isSealed = false) :
    (∃ s', s.addAll entries = .ok s') ↔ AllAdmissible aggregations collation history entries := by
  induction entries generalizing history s with
  | nil => exact ⟨fun _ => allAdmissible_nil, fun _ => ⟨s, rfl⟩⟩
  | cons e rest ih =>
    rw [addAll_cons, allAdmissible_cons, ← add_eq_ok_iff h hopen]
    cases hadd : s.add e with
    | error error =>
      constructor
      · intro hex
        obtain ⟨_, he⟩ := hex
        cases he
      · intro hboth
        obtain ⟨⟨_, he⟩, -⟩ := hboth
        cases he
    | ok s' =>
      obtain ⟨h', hopen'⟩ := h.add hadd
      rw [← ih h' hopen']
      exact ⟨fun hrest => ⟨⟨s', rfl⟩, hrest⟩, fun hrest => hrest.2⟩

theorem addAll_eq_error_iff {entries : List Entry} (h : Orderly aggregations collation history s)
    (hopen : s.isSealed = false) (error : ScanError) :
    s.addAll entries = .error error ↔
      ∃ before e after, entries = before ++ e :: after ∧
        AllAdmissible aggregations collation history before ∧
        Refused aggregations collation (history ++ before) e error := by
  induction entries generalizing history s with
  | nil =>
    refine ⟨nofun, ?_⟩
    intro hex
    obtain ⟨before, e, after, he, -⟩ := hex
    cases before <;> cases he
  | cons e rest ih =>
    rw [addAll_cons, exists_split_cons_iff, List.append_nil, ← add_eq_error_iff h hopen]
    simp only [allAdmissible_cons, ← add_eq_ok_iff h hopen]
    cases hadd : s.add e with
    | error error' =>
      constructor
      · intro he
        cases he
        exact .inl ⟨allAdmissible_nil, rfl⟩
      · intro hor
        rcases hor with ⟨-, he⟩ | ⟨before, x, after, -, ⟨⟨s', hok⟩, -⟩, -⟩
        · cases he; rfl
        · cases hok
    | ok s' =>
      -- The entry that has been taken moves from the entries ahead to the history.
      obtain ⟨h', hopen'⟩ := h.add hadd
      have hrest := ih h' hopen'
      simp only [List.append_assoc, List.singleton_append] at hrest
      rw [hrest]
      constructor
      · intro hex
        obtain ⟨before, x, after, hsplit, hbefore, hx⟩ := hex
        exact .inr ⟨before, x, after, hsplit, ⟨⟨s', rfl⟩, hbefore⟩, hx⟩
      · intro hor
        rcases hor with ⟨-, he⟩ | ⟨before, x, after, hsplit, ⟨-, hbefore⟩, hx⟩
        · cases he
        · exact ⟨before, x, after, hsplit, hbefore, hx⟩

end

end Scan

/-! ## Digesters -/

namespace Digester

variable {d : Digester} {collator : Collator} {s : Scan}

/-- A digester starts a scan with its aggregations, in the order that its settings name. -/
theorem exists_start_of_scan (h : d.scan collator = .ok s) :
    ∃ collation s₀, d.settings.collation.build collator = .ok collation ∧
      Scan.start d.aggregations collation = .ok s₀ ∧ s = s₀.withAlgorithm d.settings.algorithm := by
  unfold scan Scan.ofSettings at h
  cases hbuild : d.settings.collation.build collator with
  | error error => rw [hbuild] at h; cases h
  | ok collation =>
    simp only [hbuild] at h
    cases hstart : Scan.start d.aggregations collation with
    | error error => rw [hstart] at h; cases h
    | ok s₀ => rw [hstart] at h; cases h; exact ⟨collation, s₀, rfl, hstart, rfl⟩

theorem exists_orderly_of_scan (h : d.scan collator = .ok s) :
    ∃ collation, d.settings.collation.build collator = .ok collation ∧
      Scan.Orderly d.aggregations collation [] s ∧ s.isSealed = false := by
  obtain ⟨collation, s₀, hbuild, hstart, rfl⟩ := exists_start_of_scan h
  obtain ⟨-, rfl⟩ := Scan.start_eq_ok_iff.1 hstart
  exact ⟨collation, hbuild, ⟨⟨rfl, rfl, rfl, rfl⟩, .nil⟩, rfl⟩

theorem exists_digest_iff (h : d.scan collator = .ok s) (entries : List Entry) :
    (∃ digests, d.digest collator entries = .ok digests) ↔ ∃ s', s.addAll entries = .ok s' := by
  simp only [digest, h]
  cases s.addAll entries <;> simp

theorem digest_eq_error_iff (h : d.scan collator = .ok s) (entries : List Entry)
    (error : DigestError) :
    d.digest collator entries = .error error ↔
      ∃ reason, s.addAll entries = .error reason ∧ error = .scan reason := by
  simp only [digest, h]
  cases s.addAll entries <;> simp [eq_comm]

end Digester

/-- **Acceptance.** On every scan that calls have led to and that has not been read, an entry is
taken if and only if it is admissible after all entries taken so far, and refused for the reason
that `Refused` gives. So a digester digests entries if and only if each is admissible after the ones
before it, and fails as the first that is not. Ids may be in any total preorder: octet order is one,
and of a collator it is assumed where settings name its order. -/
theorem acceptance_is_exact :
    (∀ (aggregations : List Aggregation) (collation : Collation), Std.TransCmp collation.compare →
      ∀ s₀, Scan.start aggregations collation = .ok s₀ →
      ∀ calls, (s₀.run calls).1.isSealed = false →
      ∀ e,
        (((s₀.run calls).1.offer e).2 = .ok () ↔
          Admissible aggregations collation (taken (s₀.run calls).2) e) ∧
        ∀ error, ((s₀.run calls).1.offer e).2 = .error error ↔
          Refused aggregations collation (taken (s₀.run calls).2) e error) ∧
    (∀ (d : Digester) (collator : Collator),
      (d.settings.collation = .unicode → collator.IsTotalPreorder) →
      ∀ s, d.scan collator = .ok s →
      ∃ collation, d.settings.collation.build collator = .ok collation ∧
      ∀ entries,
        ((∃ digests, d.digest collator entries = .ok digests) ↔
          AllAdmissible d.aggregations collation [] entries) ∧
        ∀ error, d.digest collator entries = .error error ↔
          ∃ before e after reason, entries = before ++ e :: after ∧
            AllAdmissible d.aggregations collation [] before ∧
            Refused d.aggregations collation before e reason ∧ error = .scan reason) := by
  constructor
  · intro aggregations collation _ s₀ hstart calls hopen e
    have h := Scan.orderly_run (Scan.orderly_start hstart) calls
    rw [List.nil_append] at h
    exact ⟨Scan.offer_eq_ok_iff h.recorded h.ordered hopen e,
      fun error => Scan.offer_eq_error_iff h.recorded hopen e error⟩
  · intro d collator hcollator s hs
    obtain ⟨collation, hbuild, h, hopen⟩ := Digester.exists_orderly_of_scan hs
    have := CollationKind.transCmp_of_build hcollator hbuild
    refine ⟨collation, hbuild, fun entries => ?_⟩
    refine ⟨(Digester.exists_digest_iff hs entries).trans (Scan.addAll_eq_ok_iff h hopen), ?_⟩
    intro error
    rw [Digester.digest_eq_error_iff hs]
    simp only [Scan.addAll_eq_error_iff h hopen, List.nil_append]
    constructor
    · intro hex
      obtain ⟨reason, ⟨before, e, after, hsplit, hbefore, he⟩, rfl⟩ := hex
      exact ⟨before, e, after, reason, hsplit, hbefore, he, rfl⟩
    · intro hex
      obtain ⟨before, e, after, reason, hsplit, hbefore, he, rfl⟩ := hex
      exact ⟨reason, ⟨before, e, after, hsplit, hbefore, he⟩, rfl⟩

/-- After an entity, an aggregate and a refusal, an equal id can follow and a lower one cannot; and
a digester in octet order, which needs no collator, digests the two entries that were taken. In the
order of a collator a capital follows small letters: there another digester takes `Foo` after `bar`
and refuses `bar` after `Foo`. -/
theorem acceptance_is_exact_after_refusal :
    let aggregations : List Aggregation := [⟨"kind", .byName, none⟩]
    let labels : Attributes := .ofList [("kind", "x")]
    let s₀ : Scan := ⟨aggregations, .ascii, .md5, none, 0, .filling .empty⟩
    let calls : List Call := [.add (.entity "b" "v1" labels), .add (.aggregate "v2" labels),
      .add (.entity "c" "v3" .empty)]
    let d : Digester := ⟨⟨.ascii, .md5⟩, aggregations⟩
    let missing : Collator := .error "no data"
    let lettered : Collation := .unicode Collation.byWeights
    let d' : Digester := ⟨⟨.unicode, .md5⟩, aggregations⟩
    let collator : Collator := .ok Collation.byWeights
    let bar : Entry := .entity "bar" "v6" labels
    let foo : Entry := .entity "Foo" "v7" labels
    Scan.start aggregations .ascii = .ok s₀ ∧ (s₀.run calls).1.isSealed = false ∧
      Admissible aggregations .ascii (taken (s₀.run calls).2) (.entity "b" "v4" labels) ∧
      Refused aggregations .ascii (taken (s₀.run calls).2) (.entity "a" "v5" .empty)
        (.outOfOrder "b" "a") ∧
      d.scan missing = .ok s₀ ∧
      AllAdmissible aggregations .ascii [] [.entity "b" "v1" labels, .aggregate "v2" labels] ∧
      collator.IsTotalPreorder ∧
      d'.scan collator = .ok { s₀ with collation := lettered } ∧
      AllAdmissible aggregations lettered [] [bar, foo] ∧
      d'.digest collator [foo, bar] = .error (.scan (.outOfOrder "Foo" "bar")) := by
  intro aggregations labels s₀ calls d missing lettered d' collator bar foo
  have hopen : (s₀.run calls).1.isSealed = false := by decide
  have hscan : d.scan missing = .ok s₀ := rfl
  have hoffer := acceptance_is_exact.1 aggregations .ascii inferInstance s₀ rfl calls hopen
  obtain ⟨collation, hbuild, hdigest⟩ := acceptance_is_exact.2 d missing nofun s₀ hscan
  obtain rfl : Collation.ascii = collation := Except.ok.inj hbuild
  have hcollator : collator.IsTotalPreorder := .ok inferInstance
  have hscan' : d'.scan collator = .ok { s₀ with collation := lettered } := rfl
  obtain ⟨collation, hbuild, hdigest'⟩ :=
    acceptance_is_exact.2 d' collator (fun _ => hcollator) _ hscan'
  obtain rfl : lettered = collation := Except.ok.inj hbuild
  have hbelow : Refused aggregations lettered [foo] bar (.outOfOrder "Foo" "bar") :=
    .outOfOrder ⟨rfl, rfl, by decide +kernel⟩
  have hfoo : AllAdmissible aggregations lettered [] [foo] := (hdigest' [foo]).1.1 ⟨_, rfl⟩
  have htaken : ∃ digests, d'.digest collator [bar, foo] = .ok digests :=
    (Digester.exists_digest_iff hscan' _).2 ⟨_, Scan.addAll_of_feed (by decide +kernel)⟩
  exact ⟨rfl, hopen, (hoffer (.entity "b" "v4" labels)).1.1 rfl,
    ((hoffer (.entity "a" "v5" .empty)).2 _).1 rfl, hscan, (hdigest _).1.1 ⟨_, rfl⟩, hcollator,
    hscan', (hdigest' [bar, foo]).1.1 htaken,
    ((hdigest' [foo, bar]).2 _).2 ⟨[foo], bar, [], _, rfl, hfoo, hbelow, rfl⟩⟩

end BucketDigest
