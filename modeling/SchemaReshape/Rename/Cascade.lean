import SchemaReshape.Schema.Basic
import SchemaReshape.Suppression

/-!
# Cascades of a suppression

A suppression must leave nothing behind that still needs what is suppressed: no type without
fields, no union without members, no field or argument of a suppressed type. `Schema.leftovers`
lists all that is left so; to suppress that, too, can leave more behind.
-/

namespace SchemaReshape

/-- What a suppression leaves behind. -/
inductive Leftover where
  | typeWithoutFields (type : Name)
  | unionWithoutMembers (union : Name)
  | danglingField (type field referenced : Name)
  | danglingFieldArgument (type field argument referenced : Name)
  | danglingDirectiveArgument (directive argument referenced : Name)
  deriving DecidableEq, Repr

namespace Leftover

def message : Leftover → String
  | typeWithoutFields type =>
    s!"Type {type} has all of its fields suppressed. Suppress {type} as well, or keep at " ++
      "least one of its fields."
  | unionWithoutMembers union =>
    s!"Union {union} has all of its member types suppressed. Suppress {union} as well, or " ++
      "keep at least one of its members."
  | danglingField type field referenced =>
    s!"Field {type}.{field} is of type {referenced}, which is suppressed. Suppress " ++
      s!"{type}.{field} as well, or stop suppressing {referenced}."
  | danglingFieldArgument type field argument referenced =>
    s!"Argument {argument} of field {type}.{field} is of type {referenced}, which " ++
      s!"is suppressed. Suppress {type}.{field} as well, or stop suppressing {referenced}."
  | danglingDirectiveArgument directive argument referenced =>
    s!"Argument {argument} of directive @{directive} is of type {referenced}, which is " ++
      s!"suppressed. Directives cannot be suppressed, so stop suppressing {referenced}."

def report (leftovers : List Leftover) : String :=
  "Applying the suppressions would leave the schema in an illegal state. Suppressing the " ++
    "following types and fields may require further suppressions of their own:" ++
    String.join (leftovers.map fun l => "\n- " ++ l.message)

end Leftover

/-- Whether a field of the type survives. A field of the query type goes away with the type that it
is named after. -/
def Suppressions.keepsField (s : Suppressions) (queryType type field : Name) : Bool :=
  !s.hasField type field && !(type == queryType && s.hasType field)

namespace Schema

variable (schema : Schema) (s : Suppressions)

def keptTypes : List TypeDefinition := schema.types.filter fun d => !s.hasType d.name

def keptFields (d : TypeDefinition) : List FieldDefinition :=
  d.fields.filter fun field => s.keepsField schema.queryType d.name field.name

def losesAllFields (d : TypeDefinition) : Bool :=
  !d.fields.isEmpty && (schema.keptFields s d).isEmpty

end Schema

def TypeDefinition.losesAllMembers (d : TypeDefinition) (s : Suppressions) : Bool :=
  match d.body with
  | .union members => members.all s.hasType
  | _ => false

/-- What dangles at a surviving field: its own type, then its arguments. -/
def FieldDefinition.leftovers (field : FieldDefinition) (s : Suppressions) (owner : Name) :
    List Leftover :=
  (if s.hasType field.type.baseName then
    [.danglingField owner field.name field.type.baseName] else []) ++
  (field.arguments.filter fun a => s.hasType a.type.baseName).map fun a =>
    .danglingFieldArgument owner field.name a.name a.type.baseName

def DirectiveDefinition.leftovers (d : DirectiveDefinition) (s : Suppressions) :
    List Leftover :=
  (d.arguments.filter fun a => s.hasType a.type.baseName).map fun a =>
    .danglingDirectiveArgument d.name a.name a.type.baseName

namespace Schema

variable (schema : Schema) (s : Suppressions)

/-- Types without fields, unions without members, what dangles at fields and what dangles at
directives, each in the order of the schema. -/
def leftovers : List Leftover :=
  let kept := schema.keptTypes s
  (kept.filter (schema.losesAllFields s)).map (fun d => .typeWithoutFields d.name) ++
  (kept.filter (·.losesAllMembers s)).map (fun d => .unionWithoutMembers d.name) ++
  kept.flatMap (fun d => (schema.keptFields s d).flatMap (·.leftovers s d.name)) ++
  schema.directives.flatMap (·.leftovers s)

def checkLeftovers : Except (List Leftover) Unit :=
  match schema.leftovers s with
  | [] => pure ()
  | leftovers => throw leftovers

end Schema

end SchemaReshape
