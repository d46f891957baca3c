import Mathlib.Data.List.Induction
import SchemaReshape.Sorted.Set

/-!
# Entries of a map and crowded groups

What a map holds of the list of entries that it is made of, and when it is empty. Grouping pairs by
their first part puts different second parts into one group if and only if the pairs do not make a
function.
-/

namespace SchemaReshape

universe u v

namespace SortedMap

variable {κ : Type u} [Ord κ] {α : Type v} [Std.TransOrd κ] [Std.LawfulEqOrd κ]

omit [Std.TransOrd κ] in
theorem isEmpty_iff_get? {m : SortedMap κ α} : m.isEmpty = true ↔ ∀ k, m.get? k = none := by
  rw [isEmpty, List.isEmpty_iff]
  constructor
  · intro h k
    rw [get?, h, lookup]
  · intro h
    refine List.eq_nil_iff_forall_not_mem.2 fun e he => ?_
    simpa [h e.1] using mem_toList_iff.1 he

omit [Std.TransOrd κ] in
theorem get?_filter_keys (m : SortedMap κ α) (keep : κ → Bool) (k : κ) :
    (m.filter fun k _ => keep k).get? k = if keep k then m.get? k else none := by
  rw [get?_filter]
  cases keep k <;> cases m.get? k <;> rfl

omit [Std.TransOrd κ] in
theorem mem_values_iff {m : SortedMap κ α} {a : α} : a ∈ m.values ↔ ∃ k, m.get? k = some a := by
  simp only [values, List.mem_map, Prod.exists, exists_eq_right, mem_toList_iff]

omit [Std.TransOrd κ] in
theorem mem_keys_iff {m : SortedMap κ α} {k : κ} : k ∈ m.keys ↔ ∃ a, m.get? k = some a := by
  simp only [keys, List.mem_map, Prod.exists, exists_and_right, exists_eq_right, mem_toList_iff]

omit [Std.TransOrd κ] in
theorem nodup_values {m : SortedMap κ α}
    (h : ∀ k k' a, m.get? k = some a → m.get? k' = some a → k = k') : m.values.Nodup := by
  refine List.pairwise_map.2 (m.ascending.imp_of_mem fun {p q} hp hq hlt heq => ?_)
  obtain ⟨k, a⟩ := p
  obtain ⟨k', b⟩ := q
  obtain rfl : a = b := heq
  obtain rfl : k = k' := h k k' a (mem_toList_iff.1 hp) (mem_toList_iff.1 hq)
  simp [Std.ReflCmp.compare_self] at hlt

theorem isEmpty_ofList_iff {entries : List (κ × α)} :
    (ofList entries).isEmpty = true ↔ entries = [] := by
  have : DecidableEq κ := Classical.typeDecidableEq κ
  constructor
  · intro h
    rcases List.eq_nil_or_concat entries with hnil | ⟨init, ⟨k, a⟩, rfl⟩
    · exact hnil
    · have hk := isEmpty_iff_get?.1 h k
      simp [get?_ofList_concat] at hk
  · rintro rfl
    rfl

theorem mem_of_get?_ofList {entries : List (κ × α)} {k : κ} {a : α}
    (h : (ofList entries).get? k = some a) : (k, a) ∈ entries := by
  have : DecidableEq κ := Classical.typeDecidableEq κ
  induction entries using List.reverseRecOn with
  | nil => cases h
  | append_singleton init e ih =>
    obtain ⟨k', a'⟩ := e
    rw [get?_ofList_concat] at h
    rw [List.mem_append]
    by_cases hk : k = k'
    · rw [if_pos hk] at h
      exact .inr (by simp [hk, Option.some.inj h])
    · rw [if_neg hk] at h
      exact .inl (ih h)

theorem exists_get?_ofList {entries : List (κ × α)} {k : κ} {a : α} (h : (k, a) ∈ entries) :
    ∃ b, (ofList entries).get? k = some b := by
  have : DecidableEq κ := Classical.typeDecidableEq κ
  induction entries using List.reverseRecOn with
  | nil => exact absurd h List.not_mem_nil
  | append_singleton init e ih =>
    obtain ⟨k', a'⟩ := e
    rw [get?_ofList_concat]
    by_cases hk : k = k'
    · exact ⟨a', if_pos hk⟩
    · rw [if_neg hk]
      rw [List.mem_append, List.mem_singleton, Prod.mk.injEq] at h
      exact ih (h.resolve_right fun heq => hk heq.1)

/-- Entries that make a function are all kept. -/
theorem get?_ofList_eq_some_iff {entries : List (κ × α)} {k : κ} {a : α}
    (h : ∀ p ∈ entries, ∀ q ∈ entries, p.1 = q.1 → p.2 = q.2) :
    (ofList entries).get? k = some a ↔ (k, a) ∈ entries := by
  refine ⟨mem_of_get?_ofList, fun hmem => ?_⟩
  obtain ⟨b, hb⟩ := exists_get?_ofList hmem
  have hba : b = a := h (k, b) (mem_of_get?_ofList hb) (k, a) hmem rfl
  rw [hb, hba]

/-- To apply a function to all values of a map is to apply it to the value that is looked up. -/
theorem get?_ofList_map_toList {β : Type v} (m : SortedMap κ α) (f : α → β) (k : κ) :
    (ofList (m.toList.map fun e => (e.1, f e.2))).get? k = (m.get? k).map f := by
  have hmem : ∀ {k b}, (k, b) ∈ (m.toList.map fun e => (e.1, f e.2)) ↔
      (m.get? k).map f = some b := by
    intro k b
    simp only [List.mem_map, Prod.exists, mem_toList_iff, Prod.mk.injEq, Option.map_eq_some_iff]
    constructor
    · rintro ⟨_, a, ha, rfl, rfl⟩
      exact ⟨a, ha, rfl⟩
    · rintro ⟨a, ha, rfl⟩
      exact ⟨k, a, ha, rfl, rfl⟩
  refine Option.ext fun b => (get?_ofList_eq_some_iff ?_).trans hmem
  rintro ⟨k, a⟩ ha ⟨_, b⟩ hb rfl
  exact Option.some.inj ((hmem.1 ha).symm.trans (hmem.1 hb))

end SortedMap

namespace SortedSet

variable {α : Type u} [Ord α] [Std.TransOrd α] [Std.LawfulEqOrd α]

omit [Std.TransOrd α] in
theorem isEmpty_iff {s : SortedSet α} : s.isEmpty = true ↔ ∀ a, a ∉ s := by
  rw [isEmpty, SortedMap.isEmpty_iff_get?]
  refine forall_congr' fun a => ?_
  rw [mem_iff, contains, SortedMap.contains, Bool.not_eq_true, Option.isSome_eq_false_iff,
    Option.isNone_iff_eq_none]

omit [Std.TransOrd α] in
theorem nodup_toList (s : SortedSet α) : s.toList.Nodup := by
  refine List.pairwise_map.2 (s.toMap.ascending.imp fun {p q} hlt heq => ?_)
  have hself : compare q.1 q.1 = .lt := heq ▸ hlt
  simp [Std.ReflCmp.compare_self] at hself

omit [Std.TransOrd α] in
theorem one_lt_size_iff {s : SortedSet α} : 1 < s.size ↔ ∃ a ∈ s, ∃ b ∈ s, a ≠ b := by
  have hsize : s.size = s.toList.length := (List.length_map ..).symm
  have hnodup := s.nodup_toList
  rw [hsize]
  simp only [← mem_toList]
  match s.toList, hnodup with
  | [], _ | [_], _ => simp
  | a :: b :: rest, hnodup =>
    have hab : a ≠ b := fun hab => (List.nodup_cons.1 hnodup).1 (by simp [hab])
    exact iff_of_true (by simp) ⟨a, by simp, b, by simp, hab⟩

end SortedSet

namespace SortedMap

variable {κ : Type u} [Ord κ] {α : Type v} [Ord α]
  [Std.TransOrd κ] [Std.LawfulEqOrd κ] [Std.TransOrd α] [Std.LawfulEqOrd α]

/-- The crowded groups: under each key that is paired with several values, all of these. -/
theorem get?_filter_group_eq_some_iff {pairs : List (κ × α)} {k : κ} {s : SortedSet α} :
    ((group pairs).filter fun _ s => 1 < s.size).get? k = some s ↔
      (∃ a b, a ≠ b ∧ (k, a) ∈ pairs ∧ (k, b) ∈ pairs) ∧ ∀ a, a ∈ s ↔ (k, a) ∈ pairs := by
  rw [get?_filter, Option.filter_eq_some_iff, decide_eq_true_iff, SortedSet.one_lt_size_iff]
  constructor
  · rintro ⟨hs, a, ha, b, hb, hab⟩
    have hmem : ∀ a, a ∈ s ↔ (k, a) ∈ pairs := fun a => by
      rw [← mem_get?_group, hs, Option.getD_some]
    exact ⟨⟨a, b, hab, (hmem a).1 ha, (hmem b).1 hb⟩, hmem⟩
  · rintro ⟨⟨a, b, hab, ha, hb⟩, hmem⟩
    have hs : (group pairs).get? k = some s := by
      cases hget : (group pairs).get? k with
      | none =>
        have hnot := mem_get?_group.2 ha
        rw [hget] at hnot
        exact absurd hnot (SortedSet.notMem_empty a)
      | some s' =>
        refine congrArg some (SortedSet.ext_mem fun c => ?_)
        rw [hmem, ← mem_get?_group, hget, Option.getD_some]
    exact ⟨hs, a, (hmem a).2 ha, b, (hmem b).2 hb, hab⟩

theorem exists_get?_filter_group_iff {pairs : List (κ × α)} {k : κ} :
    (∃ s, ((group pairs).filter fun _ s => 1 < s.size).get? k = some s) ↔
      ∃ a b, a ≠ b ∧ (k, a) ∈ pairs ∧ (k, b) ∈ pairs := by
  constructor
  · rintro ⟨s, hs⟩
    exact (get?_filter_group_eq_some_iff.1 hs).1
  · intro h
    exact ⟨_, get?_filter_group_eq_some_iff.2 ⟨h, fun _ => mem_get?_group⟩⟩

theorem isEmpty_filter_group_iff {pairs : List (κ × α)} :
    ((group pairs).filter fun _ s => 1 < s.size).isEmpty = true ↔
      ∀ p ∈ pairs, ∀ q ∈ pairs, p.1 = q.1 → p.2 = q.2 := by
  have hnone : ∀ k, ((group pairs).filter fun _ s => 1 < s.size).get? k = none ↔
      ¬ ∃ a b, a ≠ b ∧ (k, a) ∈ pairs ∧ (k, b) ∈ pairs := fun k => by
    rw [← exists_get?_filter_group_iff, Option.eq_none_iff_forall_ne_some, not_exists]
  rw [isEmpty_iff_get?]
  simp only [hnone]
  constructor
  · rintro h ⟨k, a⟩ hp ⟨_, b⟩ hq rfl
    exact Classical.byContradiction fun hab => h k ⟨a, b, hab, hp, hq⟩
  · rintro h k ⟨a, b, hab, ha, hb⟩
    exact hab (h (k, a) ha (k, b) hb rfl)

end SortedMap

end SchemaReshape
