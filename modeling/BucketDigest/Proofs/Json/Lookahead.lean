import BucketDigest.Proofs.Json.Extension.Members

/-!
# Octets that settle what is read

Where a reader succeeds, the octets that it has consumed settle what it has read, and whatever else
follows them is left over (`Settled`). Some readers are loose, as in `Extends`: they have looked at
what follows, but no further than the first octet that is no white space. For these it has to stay
the same up to there.

* `Settled.bind`: readers one after the other.
* `settled_readQuoted`: texts.
* `settled_nextKey`, `settled_readText`, `settled_readOptionalText`, `settled_readOnce`: keys, and
  values of a given type.
-/
namespace BucketDigest.Json

/-! ## White space -/

theorem not_allSpace_append {q : List UInt8} (h : ¬AllSpace q) (p : List UInt8) :
    ¬AllSpace (p ++ q) :=
  fun hpq => h fun b hb => hpq b (List.mem_append_right p hb)

/-- Octets that are the same up to the first that is no white space. -/
def SameFront (t u : List UInt8) : Prop :=
  ∃ q t' u', ¬AllSpace q ∧ t = q ++ t' ∧ u = q ++ u'

namespace SameFront

variable {t u : List UInt8}

theorem append (h : SameFront t u) (p : List UInt8) : SameFront (p ++ t) (p ++ u) := by
  obtain ⟨q, t', u', hq, rfl, rfl⟩ := h
  exact ⟨p ++ q, t', u', not_allSpace_append hq p, (List.append_assoc ..).symm,
    (List.append_assoc ..).symm⟩

/-- The first octet is the same. -/
theorem head (h : SameFront t u) : ∃ b t' u', t = b :: t' ∧ u = b :: u' := by
  obtain ⟨q, t', u', hq, rfl, rfl⟩ := h
  cases q with
  | nil => exact absurd nofun hq
  | cons b q => exact ⟨b, q ++ t', q ++ u', rfl, rfl⟩

/-- The first octet that is no white space is the same. -/
theorem next_eq_ok (h : SameFront t u) {e : Ending} {place : Place} {b : UInt8} {r : List UInt8}
    (hu : next e place u = .ok (b, r)) (d : Ending) : ∃ r', next d place t = .ok (b, r') := by
  obtain ⟨q, t', u', hq, rfl, rfl⟩ := h
  have hskip : skipSpace q ≠ [] := fun hnil => hq (List.dropWhile_eq_nil_iff.1 hnil)
  unfold next at *
  rw [skipSpace_append hskip] at hu ⊢
  cases hfront : skipSpace q with
  | nil => exact absurd hfront hskip
  | cons c q' =>
    rw [hfront] at hu
    cases hu
    exact ⟨q' ++ t', rfl⟩

end SameFront

/-! ## Readers that are settled -/

/-- What has been read of `s` with `rest` left over is settled by the octets before `rest`, whatever
follows them. If the reader is loose, what follows has to have the same front as `rest`. -/
def Settled {ρ : Type} (loose : Bool) (read : Ending → List UInt8 → Except Fault ρ)
    (result : List UInt8 → ρ) (s rest : List UInt8) : Prop :=
  ∃ q, s = q ++ rest ∧
    ∀ d t, (loose = true → SameFront t rest) → read d (q ++ t) = .ok (result t)

namespace Settled

variable {ρ σ : Type} {loose : Bool} {read : Ending → List UInt8 → Except Fault ρ}
  {result : List UInt8 → ρ} {read' : Ending → List UInt8 → Except Fault σ}
  {result' : List UInt8 → σ} {b : UInt8} {s s₁ rest : List UInt8}

/-- A reader that takes nothing. -/
theorem refl (h : ∀ d t, read d t = .ok (result t)) : Settled loose read result s s :=
  ⟨[], rfl, fun d t _ => h d t⟩

/-- A reader, and then another one. -/
theorem bind (h : Settled loose read result s s₁) (h' : Settled loose read' result' s₁ rest)
    {whole : Ending → List UInt8 → Except Fault σ}
    (hwhole : ∀ d u t, read d u = .ok (result t) → whole d u = read' d t) :
    Settled loose whole result' s rest := by
  obtain ⟨q, rfl, hq⟩ := h
  obtain ⟨q', rfl, hq'⟩ := h'
  refine ⟨q ++ q', (List.append_assoc ..).symm, fun d t ht => ?_⟩
  rw [List.append_assoc, hwhole d _ _ (hq d _ fun hl => (ht hl).append q'), hq' d t ht]

/-- A reader whose result is made into another one. -/
theorem last (h : Settled loose read result s rest)
    {whole : Ending → List UInt8 → Except Fault σ}
    (hwhole : ∀ d u t, read d u = .ok (result t) → whole d u = .ok (result' t)) :
    Settled loose whole result' s rest := by
  have hrest : Settled loose (fun _ t => .ok (result' t)) result' rest rest := refl fun _ _ => rfl
  exact h.bind hrest hwhole

/-- A reader behind an octet that is taken. -/
theorem cons (h : Settled loose read result s rest)
    {whole : Ending → List UInt8 → Except Fault ρ} (hwhole : ∀ d t, whole d (b :: t) = read d t) :
    Settled loose whole result (b :: s) rest := by
  obtain ⟨q, rfl, hq⟩ := h
  exact ⟨b :: q, rfl, fun d t ht => (hwhole d _).trans (hq d t ht)⟩

/-- A reader that takes one octet. -/
theorem one (h : ∀ d t, read d (b :: t) = .ok (result t)) : Settled loose read result (b :: s) s :=
  ⟨[b], rfl, fun d t _ => h d t⟩

theorem map (h : Settled loose read result s rest) (F : ρ → σ) :
    Settled loose (fun d t => (read d t).map F) (fun t => F (result t)) s rest :=
  h.last fun d u t hu => by rw [hu]; rfl

/-- At the end of the octets nothing is known of loose readers. -/
theorem of_nil : Settled true read result s [] := by
  refine ⟨s, (List.append_nil s).symm, fun d t ht => ?_⟩
  obtain ⟨b, t', u', -, hnil⟩ := (ht rfl).head
  cases hnil

/-- A reader that takes nothing and goes by the first octet. -/
theorem stay (h : ∀ d t, read d (b :: t) = .ok (result (b :: t))) :
    Settled true read result (b :: s) (b :: s) := by
  refine ⟨[], rfl, fun d t ht => ?_⟩
  obtain ⟨c, t', u', rfl, hu⟩ := (ht rfl).head
  cases hu
  exact h d t'

/-- A reader that goes by the first octet without taking it. -/
theorem ahead (h : Settled true read result (b :: s) rest)
    {whole : Ending → List UInt8 → Except Fault ρ}
    (hwhole : ∀ d t, whole d (b :: t) = read d (b :: t)) :
    Settled true whole result (b :: s) rest := by
  obtain ⟨q, hs, hq⟩ := h
  refine ⟨q, hs, fun d t ht => ?_⟩
  obtain ⟨c, t', u', hqt, hqu⟩ := ((ht rfl).append q).head
  rw [← hs] at hqu
  cases hqu
  rw [← hq d t ht, hqt, hwhole]

/-- A reader that goes by the first octet that is no white space without taking it. -/
theorem ahead_next {e : Ending} {place : Place} (hnext : next e place s = .ok (b, s₁))
    (h : Settled true read result s rest) {whole : Ending → List UInt8 → Except Fault ρ}
    (hwhole : ∀ d u r, next d place u = .ok (b, r) → whole d u = read d u) :
    Settled true whole result s rest := by
  obtain ⟨q, rfl, hq⟩ := h
  refine ⟨q, rfl, fun d t ht => ?_⟩
  obtain ⟨r, hr⟩ := ((ht rfl).append q).next_eq_ok hnext d
  rw [hwhole d _ r hr, hq d t ht]

end Settled

variable {loose : Bool} {e : Ending} {b : UInt8} {s rest : List UInt8}

/-! ## Octets -/

theorem settled_next {place : Place} (h : next e place s = .ok (b, rest)) :
    Settled loose (fun d => next d place) (Prod.mk b) s rest := by
  obtain ⟨hb, sp, hsp, rfl⟩ := next_eq_ok_iff.1 h
  refine ⟨sp ++ [b], List.append_cons .., fun d t _ => ?_⟩
  rw [List.append_assoc]
  exact next_append hsp hb place t

theorem settled_readWord {cs : List Char} (h : readWord e cs s = .ok rest) :
    Settled loose (fun d => readWord d cs) id s rest := by
  induction cs generalizing s with
  | nil =>
    cases h
    exact .refl fun _ _ => rfl
  | cons c cs ih =>
    cases s with
    | nil => cases h
    | cons b s =>
      rw [readWord] at h
      split at h
      · next hb => exact (ih h).cons fun d t => by rw [readWord, if_pos hb]
      · cases h

/-! ## Texts -/

theorem settled_readHex {n : Nat} (h : readHex e s = .ok (n, rest)) :
    Settled loose readHex (Prod.mk n) s rest := by
  match s, h with
  | [], h | [_], h | [_, _], h | [_, _, _], h => cases h
  | a :: b :: c :: f :: s, h =>
    simp only [readHex] at h
    cases hn : hexNumber? [a, b, c, f] with
    | none => rw [hn] at h; cases h
    | some n' =>
      rw [hn] at h
      cases h
      refine ⟨[a, b, c, f], rfl, fun d t _ => ?_⟩
      simp only [List.cons_append, List.nil_append, readHex, hn]

theorem settled_readMark {mark : UInt8} (h : readMark e mark s = .ok rest) :
    Settled loose (fun d => readMark d mark) id s rest := by
  cases s with
  | nil => cases h
  | cons b s =>
    rw [readMark] at h
    split at h
    · next hb =>
      cases h
      exact .one fun d t => by rw [readMark, if_pos hb]; rfl
    · cases h

theorem settled_readLowSurrogate {high : Nat} {c : Char}
    (h : readLowSurrogate e high s = .ok (c, rest)) :
    Settled loose (fun d => readLowSurrogate d high) (Prod.mk c) s rest := by
  unfold readLowSurrogate at h
  split at h
  · cases h
  next h₁ =>
  split at h
  · cases h
  next h₂ =>
  split at h
  · cases h
  next low s₃ h₃ =>
  split at h
  · next hlow =>
    obtain ⟨hc, hrest⟩ := Prod.mk.inj (Except.ok.inj h)
    subst hrest
    -- The reader behind a mark is what the definition goes on with, and is found by unfolding it.
    refine (settled_readMark h₁).bind (?_ : Settled _ (fun d t => _) _ _ _) fun d u t hu => by
      unfold readLowSurrogate
      rw [hu]
    refine (settled_readMark h₂).bind (?_ : Settled _ (fun d t => _) _ _ _) fun d u t hu => by
      dsimp only [id]
      rw [hu]
    refine (settled_readHex h₃).last fun d u t hu => ?_
    dsimp only [id]
    rw [hu]
    dsimp only
    rw [if_pos hlow, hc]
  · cases h

theorem settled_readCodePoint {c : Char} (h : readCodePoint e s = .ok (c, rest)) :
    Settled loose readCodePoint (Prod.mk c) s rest := by
  unfold readCodePoint at h
  split at h
  · cases h
  next n s₁ h₁ =>
  split at h
  · cases h
  next hlow =>
  split at h
  · next hhigh =>
    refine (settled_readHex h₁).bind (settled_readLowSurrogate h) fun d u t hu => ?_
    unfold readCodePoint
    rw [hu]
    dsimp only
    rw [if_neg hlow, if_pos hhigh]
  · next hhigh =>
    obtain ⟨hc, hrest⟩ := Prod.mk.inj (Except.ok.inj h)
    subst hrest
    refine (settled_readHex h₁).last fun d u t hu => ?_
    unfold readCodePoint
    rw [hu]
    dsimp only
    rw [if_neg hlow, if_neg hhigh, hc]

theorem settled_readEscape {octets : List UInt8} (h : readEscape e s = .ok (octets, rest)) :
    Settled loose readEscape (Prod.mk octets) s rest := by
  cases s with
  | nil => cases h
  | cons b s =>
    rw [readEscape] at h
    split at h
    · next hb =>
      split at h
      · cases h
      · next c s₁ h₁ =>
        cases h
        have hchar : Settled loose (fun d t => readEscape d (b :: t)) (Prod.mk _) s rest :=
          (settled_readCodePoint h₁).last fun d u t hu => by rw [readEscape, if_pos hb, hu]
        exact hchar.cons fun _ _ => rfl
    · next hb =>
      split at h
      · next o ho =>
        cases h
        exact .one fun d t => by rw [readEscape, if_neg hb, ho]
      · cases h

theorem settled_readOctets {read octets : List UInt8}
    (h : readOctets e read s = .ok (octets, rest)) :
    Settled loose (fun d => readOctets d read) (Prod.mk octets) s rest := by
  fun_induction readOctets e read s with
  | case1 => cases h
  | case2 read s =>
    cases h
    exact .one fun d t => by rw [readOctets_cons, if_pos rfl]
  | case3 => cases h
  | case4 read s octets' s₁ h₁ hquote ih =>
    have hmore : Settled loose (fun d t => readOctets d read (octet '\\' :: t)) (Prod.mk octets)
        s rest :=
      (settled_readEscape h₁).bind (ih h) fun d u t hu => by
        rw [readOctets_cons, if_neg hquote, if_pos rfl, hu]
    exact hmore.cons fun _ _ => rfl
  | case5 => cases h
  | case6 read b s hquote hescape hcontrol ih =>
    exact (ih h).cons fun d t => by
      rw [readOctets_cons, if_neg hquote, if_neg hescape, if_neg hcontrol]

theorem settled_readQuoted {text : String} (h : readQuoted e s = .ok (text, rest)) :
    Settled loose readQuoted (Prod.mk text) s rest := by
  unfold readQuoted at h
  split at h
  · cases h
  next octets s₁ h₁ =>
  split at h
  · next text' htext =>
    cases h
    refine (settled_readOctets h₁).last fun d u t hu => ?_
    unfold readQuoted
    rw [hu]
    dsimp only
    rw [htext]
  · cases h

/-! ## Keys -/

theorem settled_skipColon (h : skipColon e s = .ok rest) : Settled loose skipColon id s rest := by
  unfold skipColon at h
  split at h
  · cases h
  next b s₁ h₁ =>
  split at h
  · next hb =>
    cases h
    refine (settled_next h₁).last fun d u t hu => ?_
    unfold skipColon
    rw [hu]
    exact if_pos hb
  · cases h

theorem settled_readKey {key : Option String} (h : readKey e s = .ok (key, rest)) :
    Settled loose readKey (Prod.mk key) s rest := by
  unfold readKey at h
  split at h
  · cases h
  next text s₁ h₁ =>
  cases h
  refine (settled_readQuoted h₁).last fun d u t hu => ?_
  unfold readKey
  rw [hu]

theorem settled_nextKey {first : Bool} {key : Option String}
    (h : nextKey e first s = .ok (key, rest)) :
    Settled loose (fun d => nextKey d first) (Prod.mk key) s rest := by
  unfold nextKey at h
  split at h
  · cases h
  next b s₁ h₁ =>
  split at h
  · next hclose =>
    cases h
    refine (settled_next h₁).last fun d u t hu => ?_
    unfold nextKey
    rw [hu]
    exact if_pos hclose
  next hclose =>
  split at h
  · next hfirst =>
    split at h
    · next hquote =>
      refine (settled_next h₁).bind (settled_readKey h) fun d u t hu => ?_
      unfold nextKey
      rw [hu]
      dsimp only
      rw [if_neg hclose, if_pos hfirst, if_pos hquote]
    · cases h
  next hfirst =>
  split at h
  · next hcomma =>
    split at h
    · cases h
    next c s₂ h₂ =>
    split at h
    · next hquote =>
      refine (settled_next h₁).bind (?_ : Settled _ (fun d t => _) _ _ _) fun d u t hu => by
        unfold nextKey
        rw [hu]
      refine (settled_next h₂).bind (settled_readKey h) fun d u t hu => ?_
      dsimp only
      rw [if_neg hclose, if_neg hfirst, if_pos hcomma, hu]
      exact if_pos hquote
    · split at h <;> cases h
  · cases h

/-! ## Values of a given type -/

theorem settled_readTextAt {text : String} (h : readTextAt e b s = .ok (text, rest)) :
    Settled loose (fun d => readTextAt d b) (Prod.mk text) s rest := by
  unfold readTextAt at h
  split at h
  · next hb =>
    refine (settled_readQuoted h).last fun d u t hu => ?_
    rw [readTextAt, if_pos hb, hu]
  · cases h

theorem settled_readText {text : String} (h : readText e s = .ok (text, rest)) :
    Settled loose readText (Prod.mk text) s rest := by
  unfold readText at h
  split at h
  · cases h
  next b s₁ h₁ =>
  refine (settled_next h₁).bind (settled_readTextAt h) fun d u t hu => ?_
  rw [readText, hu]

theorem settled_readOptionalText {text : Option String}
    (h : readOptionalText e s = .ok (text, rest)) :
    Settled loose readOptionalText (Prod.mk text) s rest := by
  unfold readOptionalText at h
  split at h
  · cases h
  next b s₁ h₁ =>
  split at h
  · next hnull =>
    split at h
    · cases h
    next s₂ h₂ =>
    cases h
    refine (settled_next h₁).bind (?_ : Settled _ (fun d t => _) _ _ _) fun d u t hu => by
      unfold readOptionalText
      rw [hu]
    refine (settled_readWord h₂).last fun d u t hu => ?_
    dsimp only
    rw [if_pos hnull, hu]
    rfl
  next hnull =>
  split at h
  · cases h
  next text' s₂ h₂ =>
  cases h
  refine (settled_next h₁).bind (?_ : Settled _ (fun d t => _) _ _ _) fun d u t hu => by
    unfold readOptionalText
    rw [hu]
  refine (settled_readTextAt h₂).last fun d u t hu => ?_
  dsimp only
  rw [if_neg hnull, hu]

theorem settled_readOnce {α : Type} {name : String} {present : Option α}
    {read : Ending → List UInt8 → Except Fault (α × List UInt8)} {a : α}
    (hread : ∀ {s}, read e s = .ok (a, rest) → Settled loose read (Prod.mk a) s rest)
    (h : readOnce e name present (read e) s = .ok (a, rest)) :
    Settled loose (fun d => readOnce d name present (read d)) (Prod.mk a) s rest := by
  unfold readOnce at h
  split at h
  · cases h
  next hnew =>
  split at h
  · cases h
  next s₁ h₁ =>
  refine (settled_skipColon h₁).bind (hread h) fun d u t hu => ?_
  unfold readOnce
  rw [if_neg hnew, hu]
  rfl

end BucketDigest.Json
