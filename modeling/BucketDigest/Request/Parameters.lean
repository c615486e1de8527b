import BucketDigest.Text.Utf8

/-!
# Request parameters

Names with values in request order, where a name may repeat, and the form encoding in which a query
string carries them.

* `ParameterSource` is all that the choice of aggregations needs to know of parameters.
* `Parameters.first?` and `Parameters.all` look a name up.
* `Parameters.ofQuery` decodes a query string.
-/
namespace BucketDigest.Request

/-- Read access to parameters: the first value of a name, and the list of its values. -/
structure ParameterSource where
  first? : String → Option String
  all? : String → Option (List String)

/-- Names and values in request order. -/
@[ext]
structure Parameters where
  pairs : List (String × String)
  deriving DecidableEq

namespace Parameters

/-- The first value of a name. -/
def first? (p : Parameters) (name : String) : Option String :=
  (p.pairs.find? fun x => x.1 = name).map Prod.snd

/-- All values of a name, in request order. -/
def all (p : Parameters) (name : String) : List String :=
  (p.pairs.filter fun x => x.1 = name).map Prod.snd

/-- The list of the values of a name, if it has any. -/
def all? (p : Parameters) (name : String) : Option (List String) :=
  if p.all name = [] then none else some (p.all name)

/-- Read access to the parameters. -/
def source (p : Parameters) : ParameterSource := ⟨p.first?, p.all?⟩

instance : Coe Parameters ParameterSource := ⟨source⟩

/-- One more value of a name. -/
def insert (p : Parameters) (name value : String) : Parameters := ⟨p.pairs ++ [(name, value)]⟩

/-- How many values there are. -/
def size (p : Parameters) : Nat := p.pairs.length

/-- Whether there is no value. -/
def isEmpty (p : Parameters) : Bool := p.pairs.isEmpty

end Parameters

/-! ## Form encoding -/

/-- The octet of an ASCII character. -/
abbrev ascii (c : Char) : UInt8 := UInt8.ofNat c.toNat

/-- Cuts at every separator. -/
def split (separator : UInt8) : List UInt8 → List (List UInt8)
  | [] => [[]]
  | b :: s =>
    if b = separator then [] :: split separator s
    else
      match split separator s with
      | [] => [[b]]
      | first :: rest => (b :: first) :: rest

/-- Cuts at the first separator; the second part is empty if there is none. -/
def cut (separator : UInt8) (s : List UInt8) : List UInt8 × List UInt8 :=
  (s.takeWhile (· != separator), (s.dropWhile (· != separator)).drop 1)

/-- The value of a hexadecimal digit of either case. -/
def hexValue? (b : UInt8) : Option UInt8 :=
  if ascii '0' ≤ b ∧ b ≤ ascii '9' then some (b - ascii '0')
  else if ascii 'a' ≤ b ∧ b ≤ ascii 'f' then some (b - ascii 'a' + 10)
  else if ascii 'A' ≤ b ∧ b ≤ ascii 'F' then some (b - ascii 'A' + 10)
  else none

/-- The octet that two hexadecimal digits stand for. -/
def hexPair? (a b : UInt8) : Option UInt8 :=
  match hexValue? a, hexValue? b with
  | some x, some y => some (16 * x + y)
  | _, _ => none

/-- Replaces `%XX` by the octet it stands for; any other percent sign stays. -/
def percentDecode : List UInt8 → List UInt8
  | a :: b :: c :: s =>
    if a = ascii '%' then
      match hexPair? b c with
      | some octet => octet :: percentDecode s
      | none => a :: percentDecode (b :: c :: s)
    else a :: percentDecode (b :: c :: s)
  | s => s
termination_by s => s.length

/-- The text that a name or a value stands for: plus signs are spaces, then percent signs are
decoded, and octets that are no UTF-8 become U+FFFD. -/
def decodeComponent (s : List UInt8) : String :=
  Text.decodeLossy (percentDecode (s.map fun b => if b = ascii '+' then ascii ' ' else b))

/-- The octets of a query without one question mark in front. -/
def afterQuestionMark : List UInt8 → List UInt8
  | b :: s => if b = ascii '?' then s else b :: s
  | [] => []

/-- The parameters of a query string. Pieces between ampersands are pairs, and empty pieces are
none. -/
def Parameters.ofQuery (query : String) : Parameters :=
  let parts := (split (ascii '&') (afterQuestionMark (Text.bytes query))).filter (· != [])
  ⟨parts.map fun s =>
    let (name, value) := cut (ascii '=') s
    (decodeComponent name, decodeComponent value)⟩

end BucketDigest.Request
