/-!
# Maps kept in key order

A finite map as the list of its entries, strictly ascending by key, so that two maps with the same
entries are equal and traversal is in key order.

* `get?_upsert_self` and `get?_upsert_of_ne` say what an update does to every look-up.
-/
namespace BucketDigest

/-- Key and value pairs, strictly ascending by key. -/
structure SortedMap (κ α : Type) [Ord κ] where
  entries : List (κ × α)
  ascending : entries.Pairwise fun x y => compare x.1 y.1 = .lt

namespace SortedMap

variable {κ α : Type} [Ord κ]

@[ext] theorem ext {m n : SortedMap κ α} (h : m.entries = n.entries) : m = n := by
  cases m; cases n; cases h; rfl

instance [DecidableEq κ] [DecidableEq α] : DecidableEq (SortedMap κ α) := fun m n =>
  decidable_of_iff (m.entries = n.entries) ⟨ext, fun h => h ▸ rfl⟩

/-- The map without entries. -/
def empty : SortedMap κ α := ⟨[], .nil⟩

/-- How many entries there are. -/
def size (m : SortedMap κ α) : Nat := m.entries.length

/-- Whether there is no entry. -/
def isEmpty (m : SortedMap κ α) : Bool := m.entries.isEmpty

/-- Looks a key up in ascending entries. -/
def find? (k : κ) : List (κ × α) → Option α
  | [] => none
  | (k', a) :: rest =>
    match compare k k' with
    | .lt => none
    | .eq => some a
    | .gt => find? k rest

/-- The value of a key. -/
def get? (m : SortedMap κ α) (k : κ) : Option α := find? k m.entries

/-- Puts `f` of a key's present value, if it has one, at the key's place in ascending entries. -/
def place (k : κ) (f : Option α → α) : List (κ × α) → List (κ × α)
  | [] => [(k, f none)]
  | (k', a) :: rest =>
    match compare k k' with
    | .lt => (k, f none) :: (k', a) :: rest
    | .eq => (k', f (some a)) :: rest
    | .gt => (k', a) :: place k f rest

theorem eq_or_mem_of_mem_place {k : κ} {f : Option α → α} {x : κ × α} {l : List (κ × α)}
    (h : x ∈ place k f l) : x.1 = k ∨ ∃ y ∈ l, y.1 = x.1 := by
  induction l with
  | nil => simp [place] at h; exact .inl (h ▸ rfl)
  | cons e rest ih =>
    simp only [place] at h
    split at h
    · simp only [List.mem_cons] at h
      rcases h with h | h | h
      · exact .inl (h ▸ rfl)
      · exact .inr ⟨e, by simp, h ▸ rfl⟩
      · exact .inr ⟨x, by simp [h], rfl⟩
    · simp only [List.mem_cons] at h
      rcases h with h | h
      · exact .inr ⟨e, by simp, h ▸ rfl⟩
      · exact .inr ⟨x, by simp [h], rfl⟩
    · simp only [List.mem_cons] at h
      rcases h with h | h
      · exact .inr ⟨e, by simp, h ▸ rfl⟩
      · rcases ih h with h | ⟨y, hy, hyx⟩
        · exact .inl h
        · exact .inr ⟨y, by simp [hy], hyx⟩

theorem pairwise_place [Std.TransOrd κ] (k : κ) (f : Option α → α) {l : List (κ × α)}
    (h : l.Pairwise fun x y => compare x.1 y.1 = .lt) :
    (place k f l).Pairwise fun x y => compare x.1 y.1 = .lt := by
  induction l with
  | nil => simp [place]
  | cons e rest ih =>
    rw [List.pairwise_cons] at h
    simp only [place]
    split
    · next hlt =>
      refine List.pairwise_cons.2 ⟨fun y hy => ?_, List.pairwise_cons.2 h⟩
      rcases List.mem_cons.1 hy with rfl | hy
      · exact hlt
      · exact Std.TransCmp.lt_trans hlt (h.1 y hy)
    · exact List.pairwise_cons.2 ⟨fun y hy => h.1 y hy, h.2⟩
    · next hgt =>
      refine List.pairwise_cons.2 ⟨fun y hy => ?_, ih h.2⟩
      rcases eq_or_mem_of_mem_place hy with hk | ⟨z, hz, hzy⟩
      · rw [hk]; exact Std.OrientedCmp.gt_iff_lt.1 hgt
      · rw [← hzy]; exact h.1 z hz

/-- Sets a key to `f` of its present value, if it has one. -/
def upsert [Std.TransOrd κ] (m : SortedMap κ α) (k : κ) (f : Option α → α) : SortedMap κ α :=
  ⟨place k f m.entries, pairwise_place k f m.ascending⟩

/-- Sets a key to a value, in place of the value it may have had. -/
def insert [Std.TransOrd κ] (m : SortedMap κ α) (k : κ) (a : α) : SortedMap κ α :=
  m.upsert k fun _ => a

/-- The map of some pairs; of two with the same key the later counts. -/
def ofList [Std.TransOrd κ] (l : List (κ × α)) : SortedMap κ α :=
  l.foldl (fun m e => m.insert e.1 e.2) empty

@[simp] theorem get?_empty (k : κ) : (empty : SortedMap κ α).get? k = none := rfl

theorem find?_place_self [Std.ReflOrd κ] (k : κ) (f : Option α → α) (l : List (κ × α)) :
    find? k (place k f l) = some (f (find? k l)) := by
  induction l with
  | nil => simp [place, find?]
  | cons e rest ih =>
    simp only [place, find?]
    cases h : compare k e.1 <;> simp [find?, h, ih]

/-- An update is seen under its key. -/
theorem get?_upsert_self [Std.TransOrd κ] (m : SortedMap κ α) (k : κ) (f : Option α → α) :
    (m.upsert k f).get? k = some (f (m.get? k)) :=
  find?_place_self k f m.entries

theorem find?_place_of_ne [Std.TransOrd κ] [Std.LawfulEqOrd κ] {k j : κ} (hne : j ≠ k)
    (f : Option α → α) (l : List (κ × α)) : find? j (place k f l) = find? j l := by
  have hj : compare j k ≠ .eq := fun h => hne (Std.LawfulEqCmp.eq_of_compare h)
  induction l with
  | nil => cases h : compare j k <;> simp_all [place, find?]
  | cons e rest ih =>
    simp only [place]
    split
    · next hlt =>
      simp only [find?]
      cases h : compare j k
      · simp only [Std.TransCmp.lt_trans h hlt]
      · exact absurd h hj
      · rfl
    · next heq =>
      have : k = e.1 := Std.LawfulEqCmp.eq_of_compare heq
      subst this
      simp only [find?]
      cases h : compare j e.1 <;> simp_all
    · simp only [find?, ih]

/-- An update is not seen under any other key. -/
theorem get?_upsert_of_ne [Std.TransOrd κ] [Std.LawfulEqOrd κ] (m : SortedMap κ α) {k j : κ}
    (hne : j ≠ k) (f : Option α → α) : (m.upsert k f).get? j = m.get? j :=
  find?_place_of_ne hne f m.entries

@[simp] theorem get?_insert_self [Std.TransOrd κ] (m : SortedMap κ α) (k : κ) (a : α) :
    (m.insert k a).get? k = some a :=
  get?_upsert_self m k _

theorem get?_insert_of_ne [Std.TransOrd κ] [Std.LawfulEqOrd κ] (m : SortedMap κ α) {k j : κ}
    (hne : j ≠ k) (a : α) : (m.insert k a).get? j = m.get? j :=
  get?_upsert_of_ne m hne _

end SortedMap

end BucketDigest
