import SchemaReshape.Proofs.Rename.EmptyPlan
import SchemaReshape.Proofs.Sorted.Entries

/-!
# The history of a plan

A plan is made edit by edit from the plan without entries. The entries for types are those of a map
that the type edits are listed into (`Plan.types_ofEdits`), the suppressed fields are those that
some edit names (`Plan.hasField_ofEdits`), and all that is asked of a plan after any history follows
from these two (`Plan.views_ofEdits`).
-/

namespace SchemaReshape

namespace Plan

/-- One addition to a plan. -/
inductive Edit where
  | renameType (type newName : Name)
  | suppressType (type : Name)
  | suppressField (type field : Name)
  deriving DecidableEq

namespace Edit

/-- The type that is edited: a field is suppressed on its owner. -/
def type : Edit → Name
  | renameType type _ | suppressType type | suppressField type _ => type

/-- The entry that the edit of a type makes; to suppress a field makes none. -/
def entry? : Edit → Option (Name × TypeChange)
  | renameType type newName => some (type, .rename newName)
  | suppressType type => some (type, .suppress)
  | suppressField .. => none

def lastChange? (edits : List Edit) (type : Name) : Option TypeChange :=
  (((edits.filterMap entry?).filter (·.1 = type)).getLast?).map (·.2)

end Edit

def edit (p : Plan) : Edit → Plan
  | .renameType type newName => p.renameType type newName
  | .suppressType type => p.suppressType type
  | .suppressField type field => p.suppressField type field

/-- The plan after a history of edits. -/
def ofEdits (edits : List Edit) : Plan := edits.foldl edit ∅

theorem ofEdits_concat (edits : List Edit) (e : Edit) :
    ofEdits (edits ++ [e]) = (ofEdits edits).edit e := by
  rw [ofEdits, List.foldl_append, ofEdits, List.foldl_cons, List.foldl_nil]

theorem types_ofEdits (edits : List Edit) :
    (ofEdits edits).types = .ofList (edits.filterMap Edit.entry?) := by
  induction edits using List.reverseRecOn with
  | nil => rfl
  | append_singleton init e ih =>
    rw [ofEdits_concat, List.filterMap_append, SortedMap.ofList, List.foldl_append,
      ← SortedMap.ofList, ← ih]
    cases e <;> rfl

theorem change?_ofEdits (edits : List Edit) (type : Name) :
    (ofEdits edits).change? type = Edit.lastChange? edits type := by
  rw [change?, types_ofEdits, SortedMap.get?_ofList, Edit.lastChange?]

/-- A field stays suppressed, whatever becomes of its owner. -/
theorem hasField_ofEdits (edits : List Edit) (type field : Name) :
    (ofEdits edits).suppressions.hasField type field = true ↔
      .suppressField type field ∈ edits := by
  induction edits using List.reverseRecOn with
  | nil => exact iff_of_false Bool.false_ne_true List.not_mem_nil
  | append_singleton init e ih =>
    rw [ofEdits_concat, List.mem_append, List.mem_singleton, ← ih]
    cases e with
    | renameType | suppressType => exact (or_iff_left nofun).symm
    | suppressField =>
      rw [edit, hasField_suppressions_suppressField, or_comm, Edit.suppressField.injEq]

theorem isEmpty_suppressions_ofEdits (edits : List Edit) :
    (ofEdits edits).suppressions.isEmpty = true ↔
      (∀ type, Edit.lastChange? edits type ≠ some .suppress) ∧
        ∀ type field, .suppressField type field ∉ edits := by
  rw [Suppressions.isEmpty_iff]
  refine and_congr (forall_congr' fun type => ?_)
    (forall_congr' fun type => forall_congr' fun field => ?_)
  · rw [hasType_suppressions, Option.isNone_eq_false_iff, Option.isSome_iff_ne_none, Ne,
      newName?_eq_none_iff, change?_ofEdits]
  · rw [← Bool.not_eq_true, hasField_ofEdits]

theorem edit_comm (p : Plan) {a b : Edit} (h : a.type ≠ b.type) :
    (p.edit a).edit b = (p.edit b).edit a := by
  have htypes : ∀ c c', (p.types.insert a.type c).insert b.type c' =
      (p.types.insert b.type c').insert a.type c := fun c c' => p.types.insert_comm h c c'
  have hfields : ∀ f f', (p.fields.groupInsert a.type f).groupInsert b.type f' =
      (p.fields.groupInsert b.type f').groupInsert a.type f :=
    fun f f' => p.fields.groupInsert_comm h f f'
  cases a with
  | renameType | suppressType =>
    cases b with
    | renameType | suppressType => exact congrArg (Plan.mk · p.fields) (htypes _ _)
    | suppressField => rfl
  | suppressField =>
    cases b with
    | renameType | suppressType => rfl
    | suppressField => exact congrArg (Plan.mk p.types) (hfields _ _)

theorem ofEdits_swap (before after : List Edit) {a b : Edit} (h : a.type ≠ b.type) :
    ofEdits (before ++ a :: b :: after) = ofEdits (before ++ b :: a :: after) := by
  simp only [ofEdits, List.foldl_append, List.foldl_cons]
  rw [edit_comm _ h]

/-- What a plan says after any history of edits: the last edit of a type alone decides what becomes
of it; a type has no new name if and only if it is among the suppressions, as is a field if and only
if some edit suppresses it; the suppressions are empty if and only if no type ends suppressed and no
edit suppresses a field. Edits of different types can change places, and to list the edits of types
makes the same entries for types. -/
theorem views_ofEdits (edits : List Edit) :
    (∀ type, (ofEdits edits).change? type = Edit.lastChange? edits type) ∧
      (∀ type, (ofEdits edits).newName? type = none ↔
        (ofEdits edits).suppressions.hasType type = true) ∧
      (∀ type field, (ofEdits edits).suppressions.hasField type field = true ↔
        .suppressField type field ∈ edits) ∧
      ((ofEdits edits).suppressions.isEmpty = true ↔
        (∀ type, Edit.lastChange? edits type ≠ some .suppress) ∧
          ∀ type field, .suppressField type field ∉ edits) ∧
      (∀ before a b after, edits = before ++ a :: b :: after → a.type ≠ b.type →
        ofEdits (before ++ b :: a :: after) = ofEdits edits) ∧
      (ofList (edits.filterMap Edit.entry?)).types = (ofEdits edits).types := by
  refine ⟨change?_ofEdits edits, fun type => ?_, hasField_ofEdits edits,
    isEmpty_suppressions_ofEdits edits, ?_, (types_ofEdits edits).symm⟩
  · rw [hasType_suppressions, Option.isNone_iff_eq_none]
  · rintro before a b after rfl h
    exact (ofEdits_swap before after h).symm

/-- A type that is renamed after it was suppressed is not suppressed; its field stays so. -/
example :
    let p := ofEdits [.suppressType "Cat", .suppressField "Cat" "name", .renameType "Cat" "Lion"]
    p.newName? "Cat" = some "Lion" ∧ p.suppressions.hasType "Cat" = false ∧
      p.suppressions.hasField "Cat" "name" = true := by
  decide

end Plan

end SchemaReshape
