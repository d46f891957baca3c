/-!
# Finite maps with ascending keys

A map is the list of its entries, each key once and in ascending order, so that two maps with the
same look-ups are the same value (`SortedMap.ext_get?`) and a listing of a map is in key order.
-/

namespace SchemaReshape

universe u v

/-- A finite map, kept as its entries in ascending order of the keys. -/
structure SortedMap (κ : Type u) [Ord κ] (α : Type v) where
  toList : List (κ × α)
  ascending : toList.Pairwise fun p q => compare p.1 q.1 = .lt

namespace SortedMap

variable {κ : Type u} [Ord κ] {α : Type v}

@[ext] theorem ext {m n : SortedMap κ α} (h : m.toList = n.toList) : m = n := by
  cases m; cases n; cases h; rfl

instance [DecidableEq κ] [DecidableEq α] : DecidableEq (SortedMap κ α) := fun m n =>
  decidable_of_iff (m.toList = n.toList) ⟨ext, fun h => h ▸ rfl⟩

instance : EmptyCollection (SortedMap κ α) := ⟨⟨[], .nil⟩⟩

instance : Inhabited (SortedMap κ α) := ⟨∅⟩

@[simp] theorem toList_empty : (∅ : SortedMap κ α).toList = [] := rfl

def isEmpty (m : SortedMap κ α) : Bool := m.toList.isEmpty

def keys (m : SortedMap κ α) : List κ := m.toList.map (·.1)

def values (m : SortedMap κ α) : List α := m.toList.map (·.2)

def lookup (k : κ) : List (κ × α) → Option α
  | [] => none
  | (k', a) :: rest => if compare k k' = .eq then some a else lookup k rest

def get? (m : SortedMap κ α) (k : κ) : Option α := lookup k m.toList

@[simp] theorem get?_empty (k : κ) : (∅ : SortedMap κ α).get? k = none := rfl

def contains (m : SortedMap κ α) (k : κ) : Bool := (m.get? k).isSome

/-- Puts an entry in its place among ascending entries, over an entry with the same key. -/
def insertEntry (k : κ) (a : α) : List (κ × α) → List (κ × α)
  | [] => [(k, a)]
  | (k', a') :: rest =>
    match compare k k' with
    | .lt => (k, a) :: (k', a') :: rest
    | .eq => (k, a) :: rest
    | .gt => (k', a') :: insertEntry k a rest

theorem mem_insertEntry {k : κ} {a : α} {p : κ × α} {entries : List (κ × α)}
    (h : p ∈ insertEntry k a entries) : p = (k, a) ∨ p ∈ entries := by
  induction entries with
  | nil => exact .inl (by simpa [insertEntry] using h)
  | cons e rest ih =>
    obtain ⟨k', a'⟩ := e
    simp only [insertEntry] at h
    split at h
    · simpa using h
    · rcases List.mem_cons.1 h with h | h
      · exact .inl h
      · exact .inr (List.mem_cons_of_mem _ h)
    · rcases List.mem_cons.1 h with h | h
      · exact .inr (h ▸ List.mem_cons_self)
      · exact (ih h).imp_right (List.mem_cons_of_mem _)

variable [Std.TransOrd κ] [Std.LawfulEqOrd κ]

theorem pairwise_insertEntry (k : κ) (a : α) {entries : List (κ × α)}
    (h : entries.Pairwise fun p q => compare p.1 q.1 = .lt) :
    (insertEntry k a entries).Pairwise fun p q => compare p.1 q.1 = .lt := by
  induction entries with
  | nil => simp [insertEntry]
  | cons e rest ih =>
    obtain ⟨k', a'⟩ := e
    obtain ⟨hhead, hrest⟩ := List.pairwise_cons.1 h
    simp only [insertEntry]
    split
    · rename_i hlt
      refine List.pairwise_cons.2 ⟨fun q hq => ?_, h⟩
      rcases List.mem_cons.1 hq with rfl | hq
      · exact hlt
      · exact Std.TransCmp.lt_trans hlt (hhead q hq)
    · rename_i heq
      cases Std.LawfulEqCmp.eq_of_compare heq
      exact List.pairwise_cons.2 ⟨hhead, hrest⟩
    · rename_i hgt
      refine List.pairwise_cons.2 ⟨fun q hq => ?_, ih hrest⟩
      rcases mem_insertEntry hq with rfl | hq
      · exact Std.OrientedCmp.lt_of_gt hgt
      · exact hhead q hq

def insert (m : SortedMap κ α) (k : κ) (a : α) : SortedMap κ α :=
  ⟨insertEntry k a m.toList, pairwise_insertEntry k a m.ascending⟩

/-- A later entry for a key replaces an earlier one. -/
def ofList (entries : List (κ × α)) : SortedMap κ α :=
  entries.foldl (fun m e => m.insert e.1 e.2) ∅

def filter (m : SortedMap κ α) (keep : κ → α → Bool) : SortedMap κ α :=
  ⟨m.toList.filter fun e => keep e.1 e.2, m.ascending.filter _⟩

omit [Std.TransOrd κ] in
theorem lookup_insertEntry [DecidableEq κ] (k k' : κ) (a : α) (entries : List (κ × α)) :
    lookup k' (insertEntry k a entries) = if k' = k then some a else lookup k' entries := by
  induction entries with
  | nil => simp [insertEntry, lookup, Std.LawfulEqCmp.compare_eq_iff_eq]
  | cons e rest ih =>
    obtain ⟨j, b⟩ := e
    simp only [insertEntry]
    split
    · simp [lookup, Std.LawfulEqCmp.compare_eq_iff_eq]
    · rename_i heq
      cases Std.LawfulEqCmp.eq_of_compare heq
      by_cases h : k' = k <;> simp [lookup, Std.LawfulEqCmp.compare_eq_iff_eq, h]
    · rename_i hgt
      simp only [lookup, ih, Std.LawfulEqCmp.compare_eq_iff_eq]
      have hne : k ≠ j := by
        rintro rfl
        simp [Std.ReflCmp.compare_self] at hgt
      by_cases h : k' = k <;> simp [h, hne]

theorem get?_insert [DecidableEq κ] (m : SortedMap κ α) (k k' : κ) (a : α) :
    (m.insert k a).get? k' = if k' = k then some a else m.get? k' :=
  lookup_insertEntry k k' a m.toList

omit [Std.TransOrd κ] in
theorem mem_of_lookup {k : κ} {a : α} {entries : List (κ × α)} (h : lookup k entries = some a) :
    (k, a) ∈ entries := by
  induction entries with
  | nil => simp [lookup] at h
  | cons e rest ih =>
    obtain ⟨k', b⟩ := e
    simp only [lookup] at h
    split at h
    · rename_i heq
      cases Std.LawfulEqCmp.eq_of_compare heq
      simp_all
    · exact List.mem_cons_of_mem _ (ih h)

omit [Std.TransOrd κ] in
theorem mem_toList_iff {m : SortedMap κ α} {k : κ} {a : α} :
    (k, a) ∈ m.toList ↔ m.get? k = some a := by
  refine ⟨fun h => ?_, mem_of_lookup⟩
  obtain ⟨entries, hasc⟩ := m
  simp only [get?] at h ⊢
  induction entries with
  | nil => simp at h
  | cons e rest ih =>
    obtain ⟨k', b⟩ := e
    obtain ⟨hhead, hrest⟩ := List.pairwise_cons.1 hasc
    rcases List.mem_cons.1 h with h | h
    · cases h
      simp [lookup, Std.ReflCmp.compare_self]
    · have hlt : compare k' k = .lt := hhead _ h
      have hne : compare k k' ≠ .eq := by
        intro heq
        cases Std.LawfulEqCmp.eq_of_compare heq
        simp [Std.ReflCmp.compare_self] at hlt
      simp only [lookup, hne, if_false]
      exact ih hrest h

omit [Std.TransOrd κ] in
theorem get?_filter (m : SortedMap κ α) (keep : κ → α → Bool) (k : κ) :
    (m.filter keep).get? k = (m.get? k).filter (keep k) := by
  refine Option.ext fun a => ?_
  rw [← mem_toList_iff, Option.filter_eq_some_iff, ← mem_toList_iff]
  exact List.mem_filter

theorem get?_ofList_concat [DecidableEq κ] (entries : List (κ × α)) (k k' : κ) (a : α) :
    (ofList (entries ++ [(k, a)])).get? k' =
      if k' = k then some a else (ofList entries).get? k' := by
  rw [ofList, List.foldl_append]
  exact get?_insert _ k k' a

/-- Maps with the same look-ups are the same map. -/
theorem ext_get? {m n : SortedMap κ α} (h : ∀ k, m.get? k = n.get? k) : m = n := by
  have hmem : ∀ p, p ∈ m.toList ↔ p ∈ n.toList := fun p => by
    rw [mem_toList_iff, mem_toList_iff, h]
  obtain ⟨xs, hx⟩ := m
  obtain ⟨ys, hy⟩ := n
  refine ext ?_
  simp only at hmem ⊢
  clear h
  induction xs generalizing ys with
  | nil =>
    cases ys with
    | nil => rfl
    | cons y ys => exact absurd ((hmem y).2 List.mem_cons_self) (by simp)
  | cons x xs ih =>
    cases ys with
    | nil => exact absurd ((hmem x).1 List.mem_cons_self) (by simp)
    | cons y ys =>
      obtain ⟨hx1, hx2⟩ := List.pairwise_cons.1 hx
      obtain ⟨hy1, hy2⟩ := List.pairwise_cons.1 hy
      have hxy : x = y := by
        rcases List.mem_cons.1 ((hmem x).1 List.mem_cons_self) with h | h
        · exact h
        · rcases List.mem_cons.1 ((hmem y).2 List.mem_cons_self) with h' | h'
          · exact h'.symm
          · have := Std.TransCmp.lt_trans (hx1 y h') (hy1 x h)
            simp [Std.ReflCmp.compare_self] at this
      subst hxy
      refine congrArg (x :: ·) (ih hx2 ys hy2 fun p => ?_)
      have hp := hmem p
      simp only [List.mem_cons] at hp
      constructor
      · intro h
        rcases hp.1 (.inr h) with rfl | h'
        · have := hx1 p h
          simp [Std.ReflCmp.compare_self] at this
        · exact h'
      · intro h
        rcases hp.2 (.inr h) with rfl | h'
        · have := hy1 p h
          simp [Std.ReflCmp.compare_self] at this
        · exact h'

end SortedMap

end SchemaReshape
