import SchemaReshape.Sorted.Map

/-!
# Finite sets listed in ascending order

A set is a sorted map whose values carry nothing. Sets with the same elements are the same value
(`SortedSet.ext_mem`). `SortedMap.groupInsert` adds a value to the set kept under a key.
-/

namespace SchemaReshape

universe u v

/-- A finite set, listed in ascending order. -/
structure SortedSet (α : Type u) [Ord α] where
  toMap : SortedMap α Unit

namespace SortedSet

variable {α : Type u} [Ord α]

instance [DecidableEq α] : DecidableEq (SortedSet α) := fun s t =>
  decidable_of_iff (s.toMap = t.toMap)
    ⟨fun h => by cases s; cases t; cases h; rfl, fun h => h ▸ rfl⟩

instance : EmptyCollection (SortedSet α) := ⟨⟨∅⟩⟩

instance : Inhabited (SortedSet α) := ⟨∅⟩

def toList (s : SortedSet α) : List α := s.toMap.keys

def isEmpty (s : SortedSet α) : Bool := s.toMap.isEmpty

def size (s : SortedSet α) : Nat := s.toMap.toList.length

def contains (s : SortedSet α) (a : α) : Bool := s.toMap.contains a

instance : Membership α (SortedSet α) := ⟨fun s a => s.contains a = true⟩

instance (a : α) (s : SortedSet α) : Decidable (a ∈ s) := inferInstanceAs (Decidable (_ = true))

theorem mem_iff {a : α} {s : SortedSet α} : a ∈ s ↔ s.contains a = true := Iff.rfl

@[simp] theorem notMem_empty (a : α) : a ∉ (∅ : SortedSet α) := Bool.false_ne_true

def meets (s t : SortedSet α) : Bool := s.toList.any t.contains

variable [Std.TransOrd α] [Std.LawfulEqOrd α]

def insert (s : SortedSet α) (a : α) : SortedSet α := ⟨s.toMap.insert a ()⟩

def ofList (as : List α) : SortedSet α := as.foldl insert ∅

theorem mem_insert {s : SortedSet α} {a b : α} : b ∈ s.insert a ↔ b = a ∨ b ∈ s := by
  have : DecidableEq α := Classical.typeDecidableEq α
  simp only [mem_iff, contains, SortedMap.contains, insert, SortedMap.get?_insert]
  split <;> simp_all

theorem mem_ofList {as : List α} {a : α} : a ∈ ofList as ↔ a ∈ as := by
  suffices h : ∀ s : SortedSet α, a ∈ as.foldl insert s ↔ a ∈ as ∨ a ∈ s by
    simpa [ofList] using h ∅
  induction as with
  | nil => simp
  | cons b as ih =>
    intro s
    rw [List.foldl_cons, ih, mem_insert, List.mem_cons, or_left_comm, or_assoc]

omit [Std.TransOrd α] in
theorem mem_toList {s : SortedSet α} {a : α} : a ∈ s.toList ↔ a ∈ s := by
  simp only [toList, SortedMap.keys, List.mem_map, Prod.exists, exists_and_right, exists_eq_right,
    SortedMap.mem_toList_iff, mem_iff, contains, SortedMap.contains, Option.isSome_iff_exists]

theorem ext_mem {s t : SortedSet α} (h : ∀ a, a ∈ s ↔ a ∈ t) : s = t := by
  obtain ⟨m⟩ := s
  obtain ⟨n⟩ := t
  refine congrArg SortedSet.mk (SortedMap.ext_get? fun a => ?_)
  have ha := h a
  simp only [mem_iff, contains, SortedMap.contains] at ha
  cases hm : m.get? a <;> cases hn : n.get? a <;> simp_all

omit [Std.TransOrd α] in
theorem meets_iff {s t : SortedSet α} : s.meets t = true ↔ ∃ a, a ∈ s ∧ a ∈ t := by
  simp [meets, List.any_eq_true, mem_toList, mem_iff]

end SortedSet

namespace SortedMap

variable {κ : Type u} [Ord κ] {α : Type v} [Ord α]
  [Std.TransOrd κ] [Std.LawfulEqOrd κ] [Std.TransOrd α] [Std.LawfulEqOrd α]

def groupInsert (m : SortedMap κ (SortedSet α)) (k : κ) (a : α) : SortedMap κ (SortedSet α) :=
  m.insert k (((m.get? k).getD ∅).insert a)

theorem mem_get?_groupInsert {m : SortedMap κ (SortedSet α)} {k k' : κ} {a b : α} :
    b ∈ ((m.groupInsert k a).get? k').getD ∅ ↔ k' = k ∧ b = a ∨ b ∈ (m.get? k').getD ∅ := by
  have : DecidableEq κ := Classical.typeDecidableEq κ
  rw [groupInsert, get?_insert]
  by_cases h : k' = k
  · simp [h, SortedSet.mem_insert]
  · simp [h]

/-- Under each key, the set of the values paired with it. -/
def group (pairs : List (κ × α)) : SortedMap κ (SortedSet α) :=
  pairs.foldl (fun m p => m.groupInsert p.1 p.2) ∅

theorem mem_get?_group {pairs : List (κ × α)} {k : κ} {a : α} :
    a ∈ ((group pairs).get? k).getD ∅ ↔ (k, a) ∈ pairs := by
  suffices h : ∀ m : SortedMap κ (SortedSet α),
      a ∈ ((pairs.foldl (fun m p => m.groupInsert p.1 p.2) m).get? k).getD ∅ ↔
        (k, a) ∈ pairs ∨ a ∈ (m.get? k).getD ∅ by
    simpa [group] using h ∅
  induction pairs with
  | nil => simp
  | cons p pairs ih =>
    intro m
    rw [List.foldl_cons, ih, mem_get?_groupInsert, List.mem_cons, Prod.ext_iff, or_left_comm,
      or_assoc]

end SortedMap

end SchemaReshape
