import BucketDigest.SortedMap

/-!
# Sorted maps through their look-ups

* `mem_entries_iff`: the entries of a map are what its look-ups find.
* `ext_get?`: maps with the same look-ups are equal.
* `nodup_keys`: no key has two entries.
* `ofList_entries`: a map is put together again from its entries in order.
-/
namespace BucketDigest.SortedMap

variable {κ α : Type} [Ord κ] [Std.TransOrd κ]

theorem ne_of_compare_lt {j k : κ} (h : compare j k = .lt) : j ≠ k := by
  intro hjk
  subst hjk
  rw [Std.ReflOrd.compare_self] at h
  cases h

theorem find?_eq_some_iff [Std.LawfulEqOrd κ] {k : κ} {a : α} {l : List (κ × α)}
    (hl : l.Pairwise fun x y => compare x.1 y.1 = .lt) : find? k l = some a ↔ (k, a) ∈ l := by
  induction l with
  | nil => simp [find?]
  | cons e rest ih =>
    obtain ⟨j, b⟩ := e
    obtain ⟨hlt, hrest⟩ := List.pairwise_cons.1 hl
    have hmem : (k, a) ∈ rest → compare j k = .lt := fun hm => hlt (k, a) hm
    simp only [find?, List.mem_cons, Prod.mk.injEq]
    cases hk : compare k j with
    | lt =>
      refine ⟨(by intro h; cases h), ?_⟩
      intro hor
      rcases hor with ⟨rfl, -⟩ | hm
      · exact absurd rfl (ne_of_compare_lt hk)
      · exact absurd (hmem hm) (Std.OrientedCmp.not_lt_of_lt hk)
    | eq =>
      obtain rfl : k = j := Std.LawfulEqCmp.eq_of_compare hk
      refine ⟨fun h => .inl ⟨rfl, by cases h; rfl⟩, ?_⟩
      intro hor
      rcases hor with ⟨-, rfl⟩ | hm
      · rfl
      · exact absurd rfl (ne_of_compare_lt (hmem hm))
    | gt =>
      refine (ih hrest).trans ⟨.inr, ?_⟩
      intro hor
      rcases hor with ⟨rfl, -⟩ | hm
      · rw [Std.ReflOrd.compare_self] at hk; cases hk
      · exact hm

/-- The entries of a map are what its look-ups find. -/
theorem mem_entries_iff [Std.LawfulEqOrd κ] (m : SortedMap κ α) (k : κ) (a : α) :
    (k, a) ∈ m.entries ↔ m.get? k = some a :=
  (find?_eq_some_iff m.ascending).symm

theorem nodup_keys (m : SortedMap κ α) : (m.entries.map Prod.fst).Nodup :=
  List.pairwise_map.2 (m.ascending.imp fun h => ne_of_compare_lt h)

/-- Maps with the same look-ups are equal. -/
theorem ext_get? [Std.LawfulEqOrd κ] {m n : SortedMap κ α} (h : ∀ k, m.get? k = n.get? k) :
    m = n := by
  have hmem : ∀ x, x ∈ m.entries ↔ x ∈ n.entries := by
    intro x
    obtain ⟨k, a⟩ := x
    rw [mem_entries_iff, mem_entries_iff, h]
  have hnodup : ∀ m : SortedMap κ α, m.entries.Nodup := fun m =>
    m.ascending.imp fun hlt he => ne_of_compare_lt hlt (congrArg Prod.fst he)
  have hperm : m.entries.Perm n.entries :=
    (List.perm_ext_iff_of_nodup (hnodup m) (hnodup n)).2 hmem
  refine ext (hperm.eq_of_pairwise (fun x y _ _ hxy hyx => ?_) m.ascending n.ascending)
  exact absurd hyx (Std.OrientedCmp.not_lt_of_lt hxy)

/-! ## Entries in order -/

/-- A key above all others takes the last place. -/
theorem place_of_forall_lt {k : κ} (f : Option α → α) {l : List (κ × α)}
    (h : ∀ x ∈ l, compare x.1 k = .lt) : place k f l = l ++ [(k, f none)] := by
  induction l with
  | nil => rfl
  | cons x rest ih =>
    obtain ⟨hx, hrest⟩ := List.forall_mem_cons.1 h
    simp only [place, Std.OrientedCmp.gt_iff_lt.2 hx, ih hrest, List.cons_append]

theorem entries_foldl_insert {l : List (κ × α)} {m : SortedMap κ α}
    (h : (m.entries ++ l).Pairwise fun x y => compare x.1 y.1 = .lt) :
    (l.foldl (fun m x => m.insert x.1 x.2) m).entries = m.entries ++ l := by
  induction l generalizing m with
  | nil => rw [List.append_nil]; rfl
  | cons x rest ih =>
    have hx : ∀ y ∈ m.entries, compare y.1 x.1 = .lt := fun y hy =>
      (List.pairwise_append.1 h).2.2 y hy x (List.mem_cons_self ..)
    have hinsert : (m.insert x.1 x.2).entries = m.entries ++ [x] :=
      place_of_forall_lt (fun _ => x.2) hx
    rw [List.append_cons, ← hinsert] at h ⊢
    exact ih h

/-- A map is put together again from its entries in order. -/
theorem ofList_entries (m : SortedMap κ α) : ofList m.entries = m :=
  ext (entries_foldl_insert (m := empty) m.ascending)

end BucketDigest.SortedMap
