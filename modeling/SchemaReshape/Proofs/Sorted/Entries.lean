import Mathlib.Data.List.Nodup
import SchemaReshape.Proofs.Sorted.Group

/-!
# The order in which a map is filled

Under each key a map keeps the last of the entries that it is made of, so that insertions under
different keys commute.
-/

namespace SchemaReshape

universe u v

namespace SortedMap

variable {κ : Type u} [Ord κ] [Std.TransOrd κ] [Std.LawfulEqOrd κ] {α : Type v}

theorem insert_comm (m : SortedMap κ α) {k k' : κ} (h : k ≠ k') (a b : α) :
    (m.insert k a).insert k' b = (m.insert k' b).insert k a := by
  have : DecidableEq κ := Classical.typeDecidableEq κ
  refine ext_get? fun j => ?_
  simp only [get?_insert]
  by_cases hj : j = k
  · simp [hj, h]
  · simp [hj]

theorem get?_ofList [DecidableEq κ] (entries : List (κ × α)) (k : κ) :
    (ofList entries).get? k = ((entries.filter (·.1 = k)).getLast?).map (·.2) := by
  induction entries using List.reverseRecOn with
  | nil => rfl
  | append_singleton init e ih =>
    rw [get?_ofList_concat, List.filter_append]
    by_cases he : e.1 = k
    · simp [he]
    · simp [he, Ne.symm he, ih]

end SortedMap

/-- There is only one ascending order for the elements of a list. -/
theorem eq_of_perm_of_ascending {κ : Type u} [Ord κ] [Std.OrientedOrd κ] {α : Type v} {key : α → κ}
    {xs ys : List α} (hx : xs.Pairwise fun a b => compare (key a) (key b) = .lt)
    (hy : ys.Pairwise fun a b => compare (key a) (key b) = .lt) (h : xs.Perm ys) : xs = ys := by
  refine h.eq_of_pairwise (fun a b _ _ hlt hgt => ?_) hx hy
  exact absurd hgt (Std.OrientedCmp.not_lt_of_lt hlt)

namespace SortedMap

variable {κ : Type u} [Ord κ] {α : Type v} [Ord α]
  [Std.TransOrd κ] [Std.LawfulEqOrd κ] [Std.TransOrd α] [Std.LawfulEqOrd α]

theorem groupInsert_comm (m : SortedMap κ (SortedSet α)) {k k' : κ} (h : k ≠ k') (a b : α) :
    (m.groupInsert k a).groupInsert k' b = (m.groupInsert k' b).groupInsert k a := by
  have : DecidableEq κ := Classical.typeDecidableEq κ
  simp only [groupInsert, get?_insert, if_neg h, if_neg h.symm]
  exact m.insert_comm h _ _

end SortedMap

end SchemaReshape
