import SchemaReshape.Document.Basic

/-!
# Definitions and their references

The definitions of each kind in a document, and the names of types that a definition mentions, apart
from the name that it defines itself.
-/

namespace SchemaReshape

def FieldDefinition.references (field : FieldDefinition) : List Name :=
  field.type.baseName :: field.arguments.map (·.type.baseName)

def DirectiveDefinition.references (d : DirectiveDefinition) : List Name :=
  d.arguments.map (·.type.baseName)

namespace TypeDefinition

def members (d : TypeDefinition) : List Name :=
  match d.body with
  | .union members => members
  | .scalar | .object .. | .interface .. | .enum _ | .inputObject _ => []

def inputFields (d : TypeDefinition) : List InputValueDefinition :=
  match d.body with
  | .inputObject fields => fields
  | .scalar | .object .. | .interface .. | .union _ | .enum _ => []

def enumValues (d : TypeDefinition) : List EnumValueDefinition :=
  match d.body with
  | .enum values => values
  | .scalar | .object .. | .interface .. | .union _ | .inputObject _ => []

def references (d : TypeDefinition) : List Name :=
  d.interfaces ++ d.members ++ d.fields.flatMap FieldDefinition.references ++
    d.inputFields.map (·.type.baseName)

end TypeDefinition

/-- Executable definitions are no part of a type system and refer to nothing in it. -/
def Definition.references : Definition → List Name
  | schema d | extension (.schema d) => d.roots.toList
  | type d | extension (.type d) => d.references
  | directive d => d.references
  | operation _ | fragment _ => []

namespace Document

theorem mem_filterMap_iff {α : Type} {kind? : Definition → Option α} {make : α → Definition}
    (h : ∀ definition d, kind? definition = some d ↔ definition = make d) {ds : List Definition}
    {d : α} : d ∈ ds.filterMap kind? ↔ make d ∈ ds := by
  simp only [List.mem_filterMap, h, exists_eq_right]

variable {document : Document}

theorem mem_schemas {d : SchemaDefinition} :
    d ∈ document.schemas ↔ .schema d ∈ document.definitions :=
  mem_filterMap_iff fun definition _ => by cases definition <;> simp [Definition.schema?]

theorem mem_types {d : TypeDefinition} : d ∈ document.types ↔ .type d ∈ document.definitions :=
  mem_filterMap_iff fun definition _ => by cases definition <;> simp [Definition.type?]

theorem mem_directives {d : DirectiveDefinition} :
    d ∈ document.directives ↔ .directive d ∈ document.definitions :=
  mem_filterMap_iff fun definition _ => by cases definition <;> simp [Definition.directive?]

theorem mem_operations {d : OperationDefinition} :
    d ∈ document.operations ↔ .operation d ∈ document.definitions :=
  mem_filterMap_iff fun definition _ => by cases definition <;> simp [Definition.operation?]

theorem mem_fragments {d : FragmentDefinition} :
    d ∈ document.fragments ↔ .fragment d ∈ document.definitions :=
  mem_filterMap_iff fun definition _ => by cases definition <;> simp [Definition.fragment?]

end Document

end SchemaReshape
