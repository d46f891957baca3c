import SchemaReshape.Schema.Build
import SchemaReshape.Document.Traversal

/-!
# Supported schemas

Renaming and merging take a schema without mutations and subscriptions, made of the supported kinds
of nodes under usable type names, whose query fields are each named after the type they query.
-/

namespace SchemaReshape

inductive SchemaFault where
  | structural (fault : StructureFault)
  | typeName (name : Name)
  deriving DecidableEq

namespace NodeKind

/-- Kinds that may not occur in a supported schema although they belong to the type system. -/
def isDisallowed : NodeKind → Bool
  | inputObjectTypeDefinition | typeExtension => true
  | _ => false

def isExecutable : NodeKind → Bool
  | field | fragmentDefinition | fragmentSpread | inlineFragment | objectField | objectValue
  | operationDefinition | selectionSet | variableUse | variableDefinition => true
  | _ => false

def needsTypeName : NodeKind → Bool
  | enumTypeDefinition | interfaceTypeDefinition | objectTypeDefinition | scalarTypeDefinition
  | unionTypeDefinition => true
  | _ => false

end NodeKind

def Node.checkSupported (node : Node) : Except SchemaFault Unit :=
  let name := node.name?.getD ""
  if node.kind.isDisallowed then throw (.structural (.disallowedNode node.kind))
  else if node.kind.isExecutable then throw (.structural (.executableNode node.kind))
  else if node.kind.needsTypeName && !name.isTypeName then throw (.typeName name)
  else pure ()

/-- Fails at the first node that may not occur or has no usable name. -/
def Document.checkNodes (document : Document) : Except SchemaFault Unit :=
  document.visit (.onEnter Node.checkSupported)

/-- Follows whether the traversal is inside the query type; a field met there has to be named after
the base of its type. -/
def Visitor.queryFields (queryType : Name) : Visitor (StateT Bool (Except StructureFault)) where
  enter
    | .typeDefinition d => do
      if d.isObject && d.name == queryType then set true
    | .fieldDefinition field => do
      if (← get) && field.name != field.type.baseName then
        throw (.queryFieldMismatch field.name field.type.baseName)
    | _ => pure ()
  leave
    | .typeDefinition d => do
      if d.isObject && d.name == queryType then set false
    | _ => pure ()

namespace Document

def checkQueryFields (document : Document) (queryType : Name) : Except StructureFault Unit :=
  (document.visit (.queryFields queryType)).run' false

def supportedSchema (document : Document) : Except SchemaFault Schema := do
  let schema ← (Schema.build document).mapError .structural
  if schema.mutationType?.isSome then throw (.structural .mutationRoot)
  if schema.subscriptionType?.isSome then throw (.structural .subscriptionRoot)
  document.checkNodes
  (document.checkQueryFields schema.queryType).mapError .structural
  return schema

end Document

end SchemaReshape
