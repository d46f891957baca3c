import SchemaReshape.Schema.Basic
import SchemaReshape.Fault.Structure

/-!
# From a document to a schema

A document makes a schema if its names are distinct, its roots are object types and every
reference leads to a definition of the right kind. The first fault in the order of the checks is
the one that is told; `Schema.build` runs the checks in that order.
-/

namespace SchemaReshape

namespace Document

/-- The roots of the first schema definition, or else the types that are named after them. -/
def roots (d : Document) : RootTypes :=
  match d.schemas.head? with
  | some definition => definition.roots
  | none =>
    let byName (name : Name) := (d.type? name).map (·.name)
    ⟨byName "Query", byName "Mutation", byName "Subscription"⟩

end Document

/-- Each type has a name of its own, and none has the name of a scalar of the language. `seen` are
the names of the types before. -/
def TypeDefinition.checkNames (seen : List Name) : List TypeDefinition → Except StructureFault Unit
  | [] => pure ()
  | d :: rest =>
    if d.name.isBuiltinScalar then throw (.builtinTypeName d.name)
    else if seen.contains d.name then throw (.repeatedType d.name)
    else checkNames (d.name :: seen) rest

def DirectiveDefinition.checkNames (seen : List Name) :
    List DirectiveDefinition → Except StructureFault Unit
  | [] => pure ()
  | d :: rest =>
    if seen.contains d.name then throw (.repeatedDirective d.name)
    else checkNames (d.name :: seen) rest

namespace Schema

variable (s : Schema)

def checkRoot (kind : OperationKind) : Option Name → Except StructureFault Unit
  | none => pure ()
  | some name =>
    match s.type? name with
    | none => throw (.rootUndefined kind name)
    | some d => if d.isObject then pure () else throw (.rootNotObject kind name)

def checkReference (type : TypeRef) (place : ReferencePlace) : Except StructureFault Unit :=
  if s.isDefined type.baseName then pure () else throw (.unknownType type.baseName place)

def checkInterface (type interface : Name) : Except StructureFault Unit :=
  match s.type? interface with
  | none => throw (.unknownInterface type interface)
  | some d => if d.isInterface then pure () else throw (.notInterface type interface)

def checkMember (union member : Name) : Except StructureFault Unit :=
  match s.type? member with
  | none => throw (.unknownMember union member)
  | some d => if d.isObject then pure () else throw (.memberNotObject union member)

def checkField (owner : Name) (field : FieldDefinition) : Except StructureFault Unit := do
  s.checkReference field.type (.field owner field.name)
  field.arguments.forM fun argument =>
    s.checkReference argument.type (.fieldArgument owner field.name argument.name)

def checkBody (d : TypeDefinition) : Except StructureFault Unit :=
  match d.body with
  | .object interfaces _ | .interface interfaces _ => interfaces.forM (s.checkInterface d.name)
  | .union members => members.forM (s.checkMember d.name)
  | .inputObject fields =>
    fields.forM fun field => s.checkReference field.type (.field d.name field.name)
  | .scalar | .enum _ => pure ()

def checkType (d : TypeDefinition) : Except StructureFault Unit := do
  s.checkBody d
  d.fields.forM (s.checkField d.name)

def checkDirective (d : DirectiveDefinition) : Except StructureFault Unit :=
  d.arguments.forM fun argument =>
    s.checkReference argument.type (.directiveArgument d.name argument.name)

def checkReferences : Except StructureFault Unit := do
  s.types.forM s.checkType
  s.directives.forM s.checkDirective

/-- Extensions and executable definitions are no part of the schema. -/
def build (document : Document) : Except StructureFault Schema := do
  TypeDefinition.checkNames [] document.types
  DirectiveDefinition.checkNames [] document.directives
  let roots := document.roots
  match roots.query? with
  | none => throw .noQueryRoot
  | some queryType =>
    let schema : Schema :=
      ⟨document.types, document.directives, queryType, roots.mutation?, roots.subscription?⟩
    schema.checkRoot .query (some queryType)
    schema.checkRoot .mutation roots.mutation?
    schema.checkRoot .subscription roots.subscription?
    schema.checkReferences
    return schema

end Schema

end SchemaReshape
