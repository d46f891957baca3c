import SchemaReshape.Document.Basic
import SchemaReshape.Rename.Cascade
import SchemaReshape.Plan

/-!
# Applying a plan

What a plan makes of each part of a document. Every name of a type goes to its new name at once;
suppressed types disappear together with the fields, union members and interfaces of a type that
need them; the fields of the query type follow the types that they are named after. What keeps its
name is passed on as it is.
-/

namespace SchemaReshape

namespace Plan

variable (plan : Plan)

/-- The new name of a type; a suppressed type keeps its name. -/
def newName (type : Name) : Name := (plan.newName? type).getD type

def suppresses (type : Name) : Bool := plan.suppressions.hasType type

def applyName (type : Name) : Name :=
  if plan.newName type = type then type else plan.newName type

/-- Drops the suppressed types of a list and renames the others. -/
def applyNames (types : List Name) : List Name :=
  (types.filter fun type => !plan.suppresses type).map plan.applyName

/-- A reference to a type that keeps its name is not taken apart. -/
def applyRef (type : TypeRef) : TypeRef :=
  if plan.newName type.baseName = type.baseName then type
  else
    match type with
    | .named name => .named (plan.applyName name)
    | .list inner => .list (applyRef inner)
    | .nonNull inner => .nonNull (applyRef inner)

def applyInput (d : InputValueDefinition) : InputValueDefinition :=
  { d with type := plan.applyRef d.type }

/-- A field; `named` says that it is named after the type that it queries. -/
def applyField (named : Bool) (field : FieldDefinition) : FieldDefinition :=
  let field :=
    if named && plan.newName field.name != field.name then
      { field with name := plan.newName field.name }
    else field
  { field with
    arguments := field.arguments.map plan.applyInput
    type := plan.applyRef field.type }

variable (queryType : Name)

def applyFields (type : Name) (fields : List FieldDefinition) : List FieldDefinition :=
  (fields.filter fun field => plan.suppressions.keepsField queryType type field.name).map
    (plan.applyField (type == queryType))

def applyTypeName (d : TypeDefinition) : TypeDefinition :=
  if plan.newName d.name = d.name then d else { d with name := plan.newName d.name }

/-- A scalar or input object keeps its name. -/
def applyType (d : TypeDefinition) : TypeDefinition :=
  match d.body with
  | .object interfaces fields =>
    { plan.applyTypeName d with
      body := .object (plan.applyNames interfaces) (plan.applyFields queryType d.name fields) }
  | .interface interfaces fields =>
    { plan.applyTypeName d with
      body := .interface (plan.applyNames interfaces) (plan.applyFields queryType d.name fields) }
  | .union members => { plan.applyTypeName d with body := .union (plan.applyNames members) }
  | .enum _ => plan.applyTypeName d
  | .inputObject fields => { d with body := .inputObject (fields.map plan.applyInput) }
  | .scalar => d

def applySchema (d : SchemaDefinition) : SchemaDefinition :=
  { d with roots := { d.roots with query? := d.roots.query?.map plan.applyName } }

def applyDirective (d : DirectiveDefinition) : DirectiveDefinition :=
  { d with arguments := d.arguments.map plan.applyInput }

def applyDefinition : Definition → Option Definition
  | .schema d => some (.schema (plan.applySchema d))
  | .type d => if plan.suppresses d.name then none else some (.type (plan.applyType queryType d))
  | .directive d => some (.directive (plan.applyDirective d))
  | .extension d => some (.extension d)
  | .operation d => some (.operation d)
  | .fragment d => some (.fragment d)

def applyDefinitions (definitions : List Definition) : List Definition :=
  definitions.filterMap (plan.applyDefinition queryType)

end Plan

end SchemaReshape
