import SchemaReshape.Suppression

/-!
# Plans

What becomes of the types of a schema: a type is renamed, suppressed or, without an entry, left
alone; a field can be suppressed on its owner. The last entry for a type counts.
-/

namespace SchemaReshape

inductive TypeChange where
  | rename (newName : Name)
  | suppress
  deriving DecidableEq, Repr

structure Plan where
  types : NameMap TypeChange
  fields : NameMap NameSet
  deriving DecidableEq

namespace Plan

instance : EmptyCollection Plan := ⟨⟨∅, ∅⟩⟩

def ofList (entries : List (Name × TypeChange)) : Plan := ⟨.ofList entries, ∅⟩

variable (p : Plan)

def setType (type : Name) (change : TypeChange) : Plan :=
  { p with types := p.types.insert type change }

def renameType (type newName : Name) : Plan := p.setType type (.rename newName)

def suppressType (type : Name) : Plan := p.setType type .suppress

def suppressField (type field : Name) : Plan :=
  { p with fields := p.fields.groupInsert type field }

def change? (type : Name) : Option TypeChange := p.types.get? type

/-- The name of the type after the renaming, unless the type is suppressed. -/
def newName? (type : Name) : Option Name :=
  match p.change? type with
  | none => some type
  | some (.rename newName) => some newName
  | some .suppress => none

/-- The types with a suppressing entry and all the fields suppressed on their owners. -/
def suppressions : Suppressions where
  types := .ofList (p.types.filter fun _ change => change = .suppress).keys
  fields := p.fields

variable (type type' field field' : Name)

theorem change?_setType (change : TypeChange) :
    (p.setType type change).change? type' = if type' = type then some change else p.change? type' :=
  SortedMap.get?_insert ..

@[simp] theorem change?_suppressField :
    (p.suppressField type field).change? type' = p.change? type' :=
  rfl

theorem newName?_eq_none_iff : p.newName? type = none ↔ p.change? type = some .suppress := by
  rw [newName?]
  split <;> simp_all

theorem hasType_suppressions : p.suppressions.hasType type = (p.newName? type).isNone := by
  rw [Bool.eq_iff_iff, Suppressions.hasType_iff, Option.isNone_iff_eq_none, newName?_eq_none_iff,
    suppressions, SortedSet.mem_ofList]
  simp [SortedMap.keys, SortedMap.mem_toList_iff, SortedMap.get?_filter, change?]

@[simp] theorem hasField_suppressions_setType (change : TypeChange) :
    (p.setType type change).suppressions.hasField type' field =
      p.suppressions.hasField type' field :=
  rfl

theorem hasField_suppressions_suppressField :
    (p.suppressField type field).suppressions.hasField type' field' = true ↔
      type' = type ∧ field' = field ∨ p.suppressions.hasField type' field' = true :=
  SortedMap.mem_get?_groupInsert

end Plan

end SchemaReshape
