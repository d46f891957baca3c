import SchemaReshape.Fault.Syntax
import SchemaReshape.Document.Node

/-!
# Why a schema is refused

The faults in the structure of a schema document, each with the names that it is about, and the
sentence that tells of it. A plan that asks for the impossible is refused on the same grounds.
-/

namespace SchemaReshape

/-- The place of a reference to a type. -/
inductive ReferencePlace where
  | field (owner field : Name)
  | fieldArgument (owner field argument : Name)
  | directiveArgument (directive argument : Name)
  deriving DecidableEq, Repr

def ReferencePlace.text : ReferencePlace → String
  | .field owner name => s!"field \"{owner}.{name}\""
  | .fieldArgument owner name argument =>
    s!"argument \"{argument}\" of field \"{owner}.{name}\""
  | .directiveArgument directive argument =>
    s!"argument \"{argument}\" of directive \"@{directive}\""

inductive StructureFault where
  | unreadable (fault : SyntaxFault)
  | builtinTypeName (name : Name)
  | repeatedType (name : Name)
  | repeatedDirective (name : Name)
  | noQueryRoot
  | rootNotObject (kind : OperationKind) (name : Name)
  | rootUndefined (kind : OperationKind) (name : Name)
  | unknownType (name : Name) (place : ReferencePlace)
  | memberNotObject (union member : Name)
  | unknownMember (union member : Name)
  | notInterface (type interface : Name)
  | unknownInterface (type interface : Name)
  | mutationRoot
  | subscriptionRoot
  | disallowedNode (kind : NodeKind)
  | executableNode (kind : NodeKind)
  | queryFieldMismatch (field type : Name)
  | scalarInPlan (name : Name)
  | queryTypeSuppressed (name : Name)
  | custom (message : String)
  deriving DecidableEq, Repr

namespace StructureFault

def message : StructureFault → String
  | unreadable fault => "Schema could not be parsed: " ++ fault.message
  | builtinTypeName name => s!"Type \"{name}\" has the name of a built-in scalar type."
  | repeatedType name => s!"There can be only one type named \"{name}\"."
  | repeatedDirective name => s!"There can be only one directive named \"@{name}\"."
  | noQueryRoot => "The schema does not define a query root type."
  | rootNotObject kind name =>
    "The " ++ kind.text ++ s!" root type \"{name}\" must be an object type."
  | rootUndefined kind name => "The " ++ kind.text ++ s!" root type \"{name}\" is not defined."
  | unknownType name place => s!"Unknown type \"{name}\" referenced by " ++ place.text ++ "."
  | memberNotObject union member =>
    s!"Union \"{union}\" can only include object types, \"{member}\" is not one."
  | unknownMember union member =>
    s!"Unknown type \"{member}\" referenced as a member of union \"{union}\"."
  | notInterface type interface =>
    s!"Type \"{type}\" can only implement interfaces, \"{interface}\" is not one."
  | unknownInterface type interface =>
    s!"Unknown interface \"{interface}\" implemented by \"{type}\"."
  | mutationRoot => "Renaming schemas that contain mutations is currently not supported."
  | subscriptionRoot => "Renaming schemas that contain subscriptions is currently not supported."
  | disallowedNode kind => "Node type \"" ++ kind.text ++ "\" not allowed."
  | executableNode kind => "Node type \"" ++ kind.text ++ "\" unexpected in schema AST."
  | queryFieldMismatch field type =>
    s!"Query type's field name \"{field}\" does not match corresponding queried type name " ++
      s!"\"{type}\""
  | scalarInPlan name =>
    s!"Type \"{name}\" is a scalar. Scalars cannot be renamed or suppressed."
  | queryTypeSuppressed name =>
    s!"The query type \"{name}\" cannot be suppressed. Suppress the types it queries instead."
  | custom message => message

end StructureFault

end SchemaReshape
