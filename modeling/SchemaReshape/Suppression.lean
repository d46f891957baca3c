import SchemaReshape.Name

/-!
# Suppressions

The types and fields that are to disappear from a schema. A field is suppressed by name on its
owner; suppressing a type suppresses none of its fields.
-/

namespace SchemaReshape

structure Suppressions where
  types : NameSet
  fields : NameMap NameSet
  deriving DecidableEq

namespace Suppressions

instance : EmptyCollection Suppressions := ⟨⟨∅, ∅⟩⟩

variable (s : Suppressions)

def addType (type : Name) : Suppressions := { s with types := s.types.insert type }

def addField (type field : Name) : Suppressions :=
  { s with fields := s.fields.groupInsert type field }

def hasType (type : Name) : Bool := s.types.contains type

/-- The suppressed fields of the type, in order of their names. -/
def fieldsOf (type : Name) : NameSet := (s.fields.get? type).getD ∅

def hasField (type field : Name) : Bool := (s.fieldsOf type).contains field

def suppressedMembers (members : List Name) : List Name := members.filter s.hasType

def isEmpty : Bool := s.types.isEmpty && s.fields.values.all SortedSet.isEmpty

variable {s} {type field type' field' : Name}

theorem hasType_iff : s.hasType type = true ↔ type ∈ s.types := Iff.rfl

theorem hasField_iff : s.hasField type field = true ↔ field ∈ s.fieldsOf type := Iff.rfl

theorem hasType_addType :
    (s.addType type).hasType type' = true ↔ type' = type ∨ s.hasType type' = true :=
  SortedSet.mem_insert

@[simp] theorem hasField_addType : (s.addType type).hasField type' field = s.hasField type' field :=
  rfl

@[simp] theorem hasType_addField : (s.addField type field).hasType type' = s.hasType type' := rfl

theorem hasField_addField :
    (s.addField type field).hasField type' field' = true ↔
      type' = type ∧ field' = field ∨ s.hasField type' field' = true :=
  SortedMap.mem_get?_groupInsert

end Suppressions

end SchemaReshape
