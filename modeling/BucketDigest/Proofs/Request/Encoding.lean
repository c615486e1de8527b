import BucketDigest.Proofs.Request.Reading
import BucketDigest.Proofs.Text.Utf8

/-!
# Queries that are read back

One list of pairs has many encodings: an octet may be escaped or, if it is a letter or a digit,
stand for itself, a space may be a plus sign, and ampersands may be repeated. `SpellsQuery` relates
the pairs to all of them, from the octets up.

* `percentDecode_of_spells`: plus signs first and percent signs then give back the octets.
* `split_append` and `cut_append`: what is spelled holds no separator, so the cuts fall where the
  parts were joined.
* `query_is_read_as_encoded`: whatever the encoding was, the pairs are read, in their order.
-/
namespace BucketDigest.Request

open Text (bytes encode)

/-! ## Encodings -/

/-- A hexadecimal digit of either case, with its value. -/
def IsHexDigit (value : Nat) (c : Char) : Prop :=
  (c, value) ∈ "0123456789abcdef".toList.zipIdx ++ "0123456789ABCDEF".toList.zipIdx

instance (value : Nat) (c : Char) : Decidable (IsHexDigit value c) :=
  inferInstanceAs (Decidable (_ ∈ _))

/-- What an octet is written as: a percent sign with two hexadecimal digits, an ASCII letter or
digit as it is, or a space as a plus sign. -/
inductive SpellsOctet : UInt8 → List Char → Prop
  | escape {m n : Nat} {c d : Char} (hc : IsHexDigit m c) (hd : IsHexDigit n d) :
    SpellsOctet (UInt8.ofNat (16 * m + n)) ['%', c, d]
  | plain {c : Char} (hc : c.isAlphanum = true) : SpellsOctet (ascii c) [c]
  | space : SpellsOctet (ascii ' ') ['+']

/-- What octets are written as, each in its own way. -/
inductive Spells : List UInt8 → List Char → Prop
  | nil : Spells [] []
  | cons {b : UInt8} {s : List UInt8} {u t : List Char} (hb : SpellsOctet b u) (hs : Spells s t) :
    Spells (b :: s) (u ++ t)

/-- What a name with a value is written as. -/
inductive SpellsPair : String × String → List Char → Prop
  | intro {name value : String} {u t : List Char} (hname : Spells (bytes name) u)
    (hvalue : Spells (bytes value) t) : SpellsPair (name, value) (u ++ '=' :: t)

/-- What pairs are written as: with ampersands between them, and more where one likes. -/
inductive SpellsPairs : List (String × String) → List Char → Prop
  | nil : SpellsPairs [] []
  | ampersand {pairs : List (String × String)} {t : List Char} (h : SpellsPairs pairs t) :
    SpellsPairs pairs ('&' :: t)
  | last {x : String × String} {u : List Char} (hx : SpellsPair x u) : SpellsPairs [x] u
  | cons {x : String × String} {pairs : List (String × String)} {u t : List Char}
    (hx : SpellsPair x u) (h : SpellsPairs pairs t) : SpellsPairs (x :: pairs) (u ++ '&' :: t)

/-- What a query is written as, with a question mark in front or none. -/
inductive SpellsQuery (pairs : List (String × String)) : List Char → Prop
  | plain {t : List Char} (h : SpellsPairs pairs t) : SpellsQuery pairs t
  | questionMark {t : List Char} (h : SpellsPairs pairs t) : SpellsQuery pairs ('?' :: t)

/-! ## Characters of an encoding -/

/-- A character that spells octets: it is ASCII, and no separator. -/
def IsSpelling (c : Char) : Prop := c.toNat < 0x80 ∧ c ∉ ['&', '=', '?']

instance (c : Char) : Decidable (IsSpelling c) := inferInstanceAs (Decidable (_ ∧ _))

theorem ascii_inj {c d : Char} (hc : c.toNat < 0x80) (hd : d.toNat < 0x80) :
    ascii c = ascii d ↔ c = d := by
  refine ⟨fun h => Char.toNat_inj.1 ?_, congrArg ascii⟩
  have htoNat := congrArg UInt8.toNat h
  rwa [Text.toNat_ofNat_of_lt (by omega), Text.toNat_ofNat_of_lt (by omega)] at htoNat

/-- All there is to know of hexadecimal digits. -/
theorem IsHexDigit.facts {value : Nat} {c : Char} (h : IsHexDigit value c) :
    hexValue? (ascii c) = some (UInt8.ofNat value) ∧ ascii c ≠ ascii '+' ∧ IsSpelling c := by
  have hall : ∀ x ∈ "0123456789abcdef".toList.zipIdx ++ "0123456789ABCDEF".toList.zipIdx,
      hexValue? (ascii x.1) = some (UInt8.ofNat x.2) ∧ ascii x.1 ≠ ascii '+' ∧
        x.1.toNat < 0x80 ∧ x.1 ∉ ['&', '=', '?'] := by decide +kernel
  exact hall _ h

/-- Letters and digits are ASCII. -/
theorem toNat_lt_of_isAlphanum {c : Char} (h : c.isAlphanum = true) : c.toNat < 0x80 := by
  have hle : c.val ≤ 'Z'.val ∨ c.val ≤ 'z'.val ∨ c.val ≤ '9'.val := by
    obtain halpha | hdigit := Bool.or_eq_true_iff.1 h
    · obtain hupper | hlower := Bool.or_eq_true_iff.1 halpha
      · exact .inl (of_decide_eq_true hupper).2
      · exact .inr (.inl (of_decide_eq_true (Bool.and_eq_true_iff.1 hlower).2))
    · exact .inr (.inr (of_decide_eq_true (Bool.and_eq_true_iff.1 hdigit).2))
  have hupper : 'Z'.val.toNat = 90 := rfl
  have hlower : 'z'.val.toNat = 122 := rfl
  have hdigit : '9'.val.toNat = 57 := rfl
  simp only [UInt32.le_iff_toNat_le] at hle
  show c.val.toNat < 0x80
  omega

theorem isSpelling_of_isAlphanum {c : Char} (h : c.isAlphanum = true) :
    IsSpelling c ∧ c ≠ '%' ∧ c ≠ '+' := by
  have hne : ∀ d : Char, d.isAlphanum = false → c ≠ d := by
    rintro d hd rfl
    rw [h] at hd
    cases hd
  refine ⟨⟨toNat_lt_of_isAlphanum h, ?_⟩, hne _ rfl, hne _ rfl⟩
  simp only [List.mem_cons, List.not_mem_nil, or_false, not_or]
  exact ⟨hne _ rfl, hne _ rfl, hne _ rfl⟩

theorem SpellsOctet.isSpelling {b : UInt8} {u : List Char} (h : SpellsOctet b u) :
    ∀ c ∈ u, IsSpelling c := by
  cases h with
  | escape hc hd =>
    simp only [List.forall_mem_cons]
    exact ⟨by decide, hc.facts.2.2, hd.facts.2.2, nofun⟩
  | plain hc => simpa using (isSpelling_of_isAlphanum hc).1
  | space => simp only [List.forall_mem_singleton]; decide

theorem Spells.isSpelling {s : List UInt8} {t : List Char} (h : Spells s t) :
    ∀ c ∈ t, IsSpelling c := by
  induction h with
  | nil => exact nofun
  | cons hb _ ih => exact List.forall_mem_append.2 ⟨hb.isSpelling, ih⟩

/-- The octets of ASCII characters. -/
def asciiOctets (t : List Char) : List UInt8 := t.map ascii

theorem Spells.notMem {s : List UInt8} {t : List Char} (h : Spells s t) {separator : Char}
    (hseparator : separator ∈ ['&', '=', '?']) : ascii separator ∉ asciiOctets t := by
  have hlt : separator.toNat < 0x80 := by
    simp only [List.mem_cons, List.not_mem_nil, or_false] at hseparator
    obtain rfl | rfl | rfl := hseparator <;> decide
  intro hmem
  obtain ⟨c, hc, he⟩ := List.mem_map.1 hmem
  obtain ⟨hascii, hne⟩ := h.isSpelling c hc
  exact hne ((ascii_inj hascii hlt).1 he ▸ hseparator)

/-! ## Components -/

/-- A plus sign stands for a space. -/
def plusAsSpace (b : UInt8) : UInt8 := if b = ascii '+' then ascii ' ' else b

/-- Less than a percent sign and two digits is nothing to decode. -/
theorem percentDecode_of_length_lt {s : List UInt8} (h : s.length < 3) : percentDecode s = s := by
  rw [percentDecode]
  rintro a b c s rfl
  simp only [List.length_cons] at h
  omega

theorem percentDecode_cons_of_ne {b : UInt8} (h : b ≠ ascii '%') (s : List UInt8) :
    percentDecode (b :: s) = b :: percentDecode s := by
  rcases s with _ | ⟨c, _ | ⟨d, s⟩⟩
  · rw [percentDecode_of_length_lt (by simp), percentDecode_of_length_lt (by simp)]
  · rw [percentDecode_of_length_lt (by simp), percentDecode_of_length_lt (by simp)]
  · rw [percentDecode, if_neg h]

/-- An octet is read back from what it was written as. -/
theorem SpellsOctet.percentDecode_append {b : UInt8} {u : List Char} (h : SpellsOctet b u)
    (s : List UInt8) :
    percentDecode ((asciiOctets u).map plusAsSpace ++ s) = b :: percentDecode s := by
  unfold asciiOctets
  cases h with
  | @escape m n c d hc hd =>
    obtain ⟨hm, hcplus, -⟩ := hc.facts
    obtain ⟨hn, hdplus, -⟩ := hd.facts
    have hpair : hexPair? (ascii c) (ascii d) = some (UInt8.ofNat (16 * m + n)) := by
      rw [hexPair?, hm, hn, UInt8.ofNat_add, UInt8.ofNat_mul]
      rfl
    simp only [List.map_cons, List.map_nil, List.cons_append, List.nil_append, plusAsSpace,
      if_neg hcplus, if_neg hdplus]
    rw [if_neg (by decide), percentDecode, if_pos rfl, hpair]
  | @plain c hc =>
    obtain ⟨⟨hlt, -⟩, hpercent, hplus⟩ := isSpelling_of_isAlphanum hc
    rw [List.map_singleton, List.map_singleton, List.singleton_append, plusAsSpace,
      if_neg (mt (ascii_inj hlt (by decide)).1 hplus),
      percentDecode_cons_of_ne (mt (ascii_inj hlt (by decide)).1 hpercent)]
  | space => exact percentDecode_cons_of_ne (by decide) s

theorem percentDecode_of_spells {s : List UInt8} {t : List Char} (h : Spells s t) :
    percentDecode ((asciiOctets t).map plusAsSpace) = s := by
  induction h with
  | nil => exact percentDecode_of_length_lt (by decide)
  | cons hb _ ih =>
    rw [asciiOctets, List.map_append, List.map_append]
    exact (hb.percentDecode_append _).trans (congrArg _ ih)

theorem decodeLossy_bytes (text : String) : Text.decodeLossy (bytes text) = text := by
  have hscalars : Text.scalars (bytes text) = text.toList.map some :=
    Text.scalars_encode text.toList
  unfold Text.decodeLossy
  rw [hscalars, List.map_map]
  exact (congrArg String.ofList (List.map_id _)).trans String.ofList_toList

/-- A name or a value is read back from what it was written as. -/
theorem decodeComponent_of_spells {text : String} {t : List Char} (h : Spells (bytes text) t) :
    decodeComponent (asciiOctets t) = text := by
  have hdecode := percentDecode_of_spells h
  show Text.decodeLossy (percentDecode ((asciiOctets t).map plusAsSpace)) = text
  rw [hdecode, decodeLossy_bytes]

/-! ## Cuts -/

theorem split_append {separator : UInt8} {u : List UInt8} (h : separator ∉ u) (s : List UInt8) :
    split separator (u ++ separator :: s) = u :: split separator s := by
  induction u with
  | nil => rw [List.nil_append, split, if_pos rfl]
  | cons b u ih =>
    obtain ⟨hb, hu⟩ := not_or.1 (mt List.mem_cons.2 h)
    rw [List.cons_append, split, if_neg (Ne.symm hb), ih hu]

theorem split_of_notMem {separator : UInt8} {u : List UInt8} (h : separator ∉ u) :
    split separator u = [u] := by
  induction u with
  | nil => rfl
  | cons b u ih =>
    obtain ⟨hb, hu⟩ := not_or.1 (mt List.mem_cons.2 h)
    rw [split, if_neg (Ne.symm hb), ih hu]

theorem cut_append {separator : UInt8} {u : List UInt8} (h : separator ∉ u) (s : List UInt8) :
    cut separator (u ++ separator :: s) = (u, s) := by
  have hne : ∀ b ∈ u, (b != separator) = true := by
    intro b hb
    exact bne_iff_ne.2 (ne_of_mem_of_not_mem hb h)
  unfold cut
  rw [List.takeWhile_append_of_pos hne, List.dropWhile_append_of_pos hne]
  simp

/-- The pieces of a query that are pairs. -/
def pieces (s : List UInt8) : List (List UInt8) := (split (ascii '&') s).filter (· != [])

/-- The pair that a piece stands for. -/
def pairOf (s : List UInt8) : String × String :=
  (decodeComponent (cut (ascii '=') s).1, decodeComponent (cut (ascii '=') s).2)

theorem ofQuery_eq (query : String) :
    Parameters.ofQuery query = ⟨(pieces (afterQuestionMark (bytes query))).map pairOf⟩ := rfl

theorem pieces_ampersand (s : List UInt8) : pieces (ascii '&' :: s) = pieces s := by
  unfold pieces
  rw [split, if_pos rfl]
  rfl

theorem pieces_append {u : List UInt8} (hu : ascii '&' ∉ u) (hne : u ≠ []) (s : List UInt8) :
    pieces (u ++ ascii '&' :: s) = u :: pieces s := by
  unfold pieces
  rw [split_append hu, List.filter_cons_of_pos (by simpa using hne)]

theorem pieces_of_notMem {u : List UInt8} (hu : ascii '&' ∉ u) (hne : u ≠ []) :
    pieces u = [u] := by
  unfold pieces
  rw [split_of_notMem hu, List.filter_cons_of_pos (by simpa using hne), List.filter_nil]

/-! ## Pairs -/

theorem asciiOctets_append_cons (u : List Char) (separator : Char) (t : List Char) :
    asciiOctets (u ++ separator :: t) = asciiOctets u ++ ascii separator :: asciiOctets t :=
  List.map_append

section
variable {x : String × String} {pairs : List (String × String)} {u t : List Char}

/-- A pair is read back from its piece. -/
theorem SpellsPair.pairOf_eq (h : SpellsPair x u) : pairOf (asciiOctets u) = x := by
  obtain ⟨hname, hvalue⟩ := h
  unfold pairOf
  rw [asciiOctets_append_cons, cut_append (hname.notMem (by decide)),
    decodeComponent_of_spells hname, decodeComponent_of_spells hvalue]

/-- The piece of a pair is one piece. -/
theorem SpellsPair.isPiece (h : SpellsPair x u) :
    ascii '&' ∉ asciiOctets u ∧ asciiOctets u ≠ [] := by
  obtain ⟨hname, hvalue⟩ := h
  rw [asciiOctets_append_cons]
  refine ⟨?_, List.append_ne_nil_of_right_ne_nil _ (List.cons_ne_nil _ _)⟩
  rw [List.mem_append, List.mem_cons, not_or, not_or]
  exact ⟨hname.notMem (by decide), by decide, hvalue.notMem (by decide)⟩

theorem SpellsPair.forall_mem (h : SpellsPair x u) : ∀ c ∈ u, c.toNat < 0x80 ∧ c ≠ '?' := by
  have hplain : ∀ c, IsSpelling c → c.toNat < 0x80 ∧ c ≠ '?' := by
    rintro c ⟨hlt, hseparator⟩
    refine ⟨hlt, ?_⟩
    rintro rfl
    exact hseparator (by decide)
  obtain ⟨hname, hvalue⟩ := h
  rw [List.forall_mem_append, List.forall_mem_cons]
  exact ⟨fun c hc => hplain c (hname.isSpelling c hc), by decide,
    fun c hc => hplain c (hvalue.isSpelling c hc)⟩

/-- Pairs are written in ASCII and without a question mark. -/
theorem SpellsPairs.forall_mem (h : SpellsPairs pairs t) :
    ∀ c ∈ t, c.toNat < 0x80 ∧ c ≠ '?' := by
  induction h with
  | nil => exact nofun
  | ampersand _ ih => exact List.forall_mem_cons.2 ⟨by decide, ih⟩
  | last hx => exact hx.forall_mem
  | cons hx _ ih =>
    exact List.forall_mem_append.2 ⟨hx.forall_mem, List.forall_mem_cons.2 ⟨by decide, ih⟩⟩

/-- Pairs are read back in their order, and nothing else. -/
theorem SpellsPairs.map_pairOf_eq (h : SpellsPairs pairs t) :
    (pieces (asciiOctets t)).map pairOf = pairs := by
  induction h with
  | nil => rfl
  | ampersand _ ih => exact (congrArg (List.map pairOf) (pieces_ampersand _)).trans ih
  | last hx =>
    obtain ⟨hu, hne⟩ := hx.isPiece
    rw [pieces_of_notMem hu hne, List.map_singleton, hx.pairOf_eq]
  | cons hx _ ih =>
    obtain ⟨hu, hne⟩ := hx.isPiece
    rw [asciiOctets_append_cons, pieces_append hu hne, List.map_cons, hx.pairOf_eq, ih]

/-- Only a question mark in front of the pairs is dropped. -/
theorem SpellsQuery.afterQuestionMark_eq (h : SpellsQuery pairs t) :
    ∃ t', SpellsPairs pairs t' ∧ afterQuestionMark (encode t) = asciiOctets t' := by
  cases h with
  | @questionMark t h =>
    refine ⟨t, h, ?_⟩
    rw [Text.encode_cons_of_ascii (by decide), afterQuestionMark, if_pos rfl]
    exact Text.encode_of_ascii fun c hc => (h.forall_mem c hc).1
  | plain h =>
    refine ⟨t, h, ?_⟩
    rw [Text.encode_of_ascii fun c hc => (h.forall_mem c hc).1]
    obtain _ | ⟨c, t⟩ := t
    · rfl
    · obtain ⟨hlt, hne⟩ := h.forall_mem c (List.mem_cons_self ..)
      rw [List.map_cons, afterQuestionMark, if_neg (mt (ascii_inj hlt (by decide)).1 hne)]
      rfl

theorem all_eq_filterMap (pairs : List (String × String)) (name : String) :
    Parameters.all ⟨pairs⟩ name =
      pairs.filterMap fun x => if x.1 = name then some x.2 else none := by
  unfold Parameters.all
  induction pairs with
  | nil => rfl
  | cons x pairs ih =>
    by_cases h : x.1 = name
    · simp [h, ← ih]
    · simp [h, ← ih]

/-- **Queries are read as they were encoded.** Whatever an encoding writes octets as, and wherever
it repeats ampersands, the parameters of the query are the pairs in their order. So a name has the
values that it has in the pairs, in their order, and its first value is the first of them. -/
theorem query_is_read_as_encoded {pairs : List (String × String)} {query : String}
    (h : SpellsQuery pairs query.toList) :
    Parameters.ofQuery query = ⟨pairs⟩ ∧
      ∀ name,
        let values := pairs.filterMap fun x => if x.1 = name then some x.2 else none
        (Parameters.ofQuery query).all? name = (if values = [] then none else some values) ∧
          (Parameters.ofQuery query).first? name = values.head? := by
  obtain ⟨t, ht, hoctets⟩ := h.afterQuestionMark_eq
  have hquery : Parameters.ofQuery query = ⟨pairs⟩ := by
    rw [ofQuery_eq, show bytes query = encode query.toList from rfl, hoctets, ht.map_pairOf_eq]
  refine ⟨hquery, fun name => ?_⟩
  rw [hquery, Parameters.first?_eq_head?, Parameters.all?, all_eq_filterMap]
  exact ⟨rfl, rfl⟩

end

/-- A name with two values, a name that is empty, and an octet of each kind. -/
theorem query_is_read_as_encoded_in_many_ways :
    let pairs : List (String × String) := [("a", "é +"), ("", ""), ("a", "&")]
    let query := "?&a=%c3%A9+%2B&&=&%61=%26&"
    SpellsQuery pairs query.toList ∧ Parameters.ofQuery query = ⟨pairs⟩ ∧
      (Parameters.ofQuery query).all? "a" = some ["é +", "&"] ∧
      (Parameters.ofQuery query).first? "a" = some "é +" := by
  intro pairs query
  have hletter : Spells (bytes "a") ['a'] := .cons (.plain rfl) .nil
  have hescaped : Spells (bytes "a") ['%', '6', '1'] :=
    .cons (SpellsOctet.escape (m := 6) (n := 1) (by decide) (by decide)) .nil
  have hempty : Spells (bytes "") [] := .nil
  have hfirst : Spells (bytes "é +") ['%', 'c', '3', '%', 'A', '9', '+', '%', '2', 'B'] :=
    .cons (SpellsOctet.escape (m := 12) (n := 3) (by decide) (by decide)) <|
      .cons (SpellsOctet.escape (m := 10) (n := 9) (by decide) (by decide)) <|
      .cons .space <|
      .cons (SpellsOctet.escape (m := 2) (n := 11) (by decide) (by decide)) .nil
  have hsecond : Spells (bytes "&") ['%', '2', '6'] :=
    .cons (SpellsOctet.escape (m := 2) (n := 6) (by decide) (by decide)) .nil
  have hpairs : SpellsPairs pairs "&a=%c3%A9+%2B&&=&%61=%26&".toList :=
    .ampersand <| .cons ⟨hletter, hfirst⟩ <| .ampersand <| .cons ⟨hempty, hempty⟩ <|
      .cons ⟨hescaped, hsecond⟩ .nil
  have htext : query.toList = '?' :: "&a=%c3%A9+%2B&&=&%61=%26&".toList := by decide +kernel
  have hquery : SpellsQuery pairs query.toList := htext ▸ .questionMark hpairs
  obtain ⟨hread, hvalues⟩ := query_is_read_as_encoded hquery
  exact ⟨hquery, hread, (hvalues "a").1, (hvalues "a").2⟩

end BucketDigest.Request
