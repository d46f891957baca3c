import SchemaReshape.Name

/-!
# Catalogues

Things under labels, in the order in which the labels were first given. Putting something under a
label that is taken replaces what was there and keeps its place.
-/

namespace SchemaReshape

universe u

structure Catalogue (α : Type u) where
  toList : List (String × α)
  distinct : (toList.map (·.1)).Nodup

namespace Catalogue

variable {α : Type u}

instance : EmptyCollection (Catalogue α) := ⟨⟨[], .nil⟩⟩

def get? (c : Catalogue α) (label : String) : Option α := c.toList.lookup label

theorem mem_of_lookup {entries : List (String × α)} {label : String} {a : α}
    (h : entries.lookup label = some a) : (label, a) ∈ entries := by
  obtain ⟨before, after, heq, -⟩ := List.lookup_eq_some_iff.1 h
  rw [heq]
  exact List.mem_append_right before List.mem_cons_self

theorem mem_toList_of_get? {c : Catalogue α} {label : String} {a : α}
    (h : c.get? label = some a) : (label, a) ∈ c.toList := mem_of_lookup h

/-- Replaces the value under the label, or puts the entry last. -/
def put (label : String) (a : α) : List (String × α) → List (String × α)
  | [] => [(label, a)]
  | (l, b) :: rest => if l = label then (l, a) :: rest else (l, b) :: put label a rest

theorem map_fst_put (label : String) (a : α) (entries : List (String × α)) :
    (put label a entries).map (·.1) =
      if label ∈ entries.map (·.1) then entries.map (·.1) else entries.map (·.1) ++ [label] := by
  induction entries with
  | nil => simp [put]
  | cons e rest ih =>
    obtain ⟨l, b⟩ := e
    by_cases h : l = label
    · simp [put, h]
    · simp only [put, h, if_false, List.map_cons, ih, List.mem_cons, Ne.symm h, false_or]
      split <;> simp

def insert (c : Catalogue α) (label : String) (a : α) : Catalogue α where
  toList := put label a c.toList
  distinct := by
    rw [map_fst_put]
    split
    · exact c.distinct
    · rename_i h
      exact List.nodup_append.2 ⟨c.distinct, by simp, fun l hl m hm hlm => h (by simp_all)⟩

theorem lookup_cons_ite (label l : String) (b : α) (rest : List (String × α)) :
    ((l, b) :: rest).lookup label = if label = l then some b else rest.lookup label := by
  by_cases h : label = l
  · simp [h]
  · simp [List.lookup_cons, beq_false_of_ne h, h]

/-- Among distinct labels every entry is found. -/
theorem lookup_eq_some_of_mem {entries : List (String × α)} (h : (entries.map (·.1)).Nodup)
    {label : String} {a : α} (hmem : (label, a) ∈ entries) : entries.lookup label = some a := by
  induction entries with
  | nil => exact absurd hmem List.not_mem_nil
  | cons e rest ih =>
    obtain ⟨l, b⟩ := e
    rw [List.map_cons, List.nodup_cons] at h
    rw [lookup_cons_ite]
    rcases List.mem_cons.1 hmem with heq | hrest
    · cases heq
      exact if_pos rfl
    · have hne : label ≠ l := by
        rintro rfl
        exact h.1 (List.mem_map.2 ⟨(label, a), hrest, rfl⟩)
      rw [if_neg hne]
      exact ih h.2 hrest

theorem lookup_eq_of_perm {entries entries' : List (String × α)} (hperm : entries.Perm entries')
    (h : (entries.map (·.1)).Nodup) (label : String) :
    entries.lookup label = entries'.lookup label := by
  have h' : (entries'.map (·.1)).Nodup := (hperm.map _).nodup_iff.1 h
  refine Option.ext fun a => ⟨fun ha => ?_, fun ha => ?_⟩
  · exact lookup_eq_some_of_mem h' (hperm.mem_iff.1 (mem_of_lookup ha))
  · exact lookup_eq_some_of_mem h (hperm.mem_iff.2 (mem_of_lookup ha))

theorem get?_of_mem_toList {c : Catalogue α} {label : String} {a : α}
    (h : (label, a) ∈ c.toList) : c.get? label = some a :=
  lookup_eq_some_of_mem c.distinct h

theorem lookup_put (label label' : String) (a : α) (entries : List (String × α)) :
    (put label a entries).lookup label' =
      if label' = label then some a else entries.lookup label' := by
  induction entries with
  | nil => rw [put, lookup_cons_ite]
  | cons e rest ih =>
    obtain ⟨l, b⟩ := e
    by_cases hl : l = label
    · simp only [put, hl, if_true, lookup_cons_ite]
      split <;> rfl
    · simp only [put, hl, if_false, lookup_cons_ite, ih]
      by_cases h : label' = l <;> simp [h, hl]

theorem get?_insert (c : Catalogue α) (label label' : String) (a : α) :
    (c.insert label a).get? label' = if label' = label then some a else c.get? label' :=
  lookup_put label label' a c.toList

def ofList (entries : List (String × α)) : Catalogue α :=
  entries.foldl (fun c e => c.insert e.1 e.2) ∅

end Catalogue

end SchemaReshape
