import SchemaReshape.Document.Selection

/-!
# Documents

A document is a list of definitions. It may hold definitions of a type system and executable ones
side by side, so that a check can refuse the one among the other.
-/

namespace SchemaReshape

inductive Definition where
  | schema (definition : SchemaDefinition)
  | type (definition : TypeDefinition)
  | extension (definition : Extension)
  | directive (definition : DirectiveDefinition)
  | operation (definition : OperationDefinition)
  | fragment (definition : FragmentDefinition)
  deriving DecidableEq, Repr

namespace Definition

def schema? : Definition → Option SchemaDefinition
  | schema definition => some definition
  | _ => none

def type? : Definition → Option TypeDefinition
  | type definition => some definition
  | _ => none

def directive? : Definition → Option DirectiveDefinition
  | directive definition => some definition
  | _ => none

def operation? : Definition → Option OperationDefinition
  | operation definition => some definition
  | _ => none

def fragment? : Definition → Option FragmentDefinition
  | fragment definition => some definition
  | _ => none

end Definition

structure Document where
  definitions : List Definition
  deriving DecidableEq, Repr

namespace Document

instance : Append Document := ⟨fun d e => ⟨d.definitions ++ e.definitions⟩⟩

def schemas (d : Document) : List SchemaDefinition := d.definitions.filterMap Definition.schema?

/-- The type definitions, extensions left out. -/
def types (d : Document) : List TypeDefinition := d.definitions.filterMap Definition.type?

def directives (d : Document) : List DirectiveDefinition :=
  d.definitions.filterMap Definition.directive?

def operations (d : Document) : List OperationDefinition :=
  d.definitions.filterMap Definition.operation?

def fragments (d : Document) : List FragmentDefinition :=
  d.definitions.filterMap Definition.fragment?

def type? (d : Document) (name : Name) : Option TypeDefinition := d.types.find? (·.name == name)

end Document

end SchemaReshape
