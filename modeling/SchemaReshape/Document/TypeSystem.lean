import SchemaReshape.Document.TypeRef
import SchemaReshape.Document.Value

/-!
# Definitions of a type system

Types, directives and root operation types as a schema document defines them.
-/

namespace SchemaReshape

structure Argument where
  name : Name
  value : Value
  deriving DecidableEq, Repr

structure Directive where
  name : Name
  arguments : List Argument
  deriving DecidableEq, Repr

/-- An argument of a field or directive, or a field of an input object. -/
structure InputValueDefinition where
  description : Option String
  name : Name
  type : TypeRef
  default : Option Value
  directives : List Directive
  deriving DecidableEq, Repr

/-- Nothing may leave the argument out. -/
def InputValueDefinition.isRequired (d : InputValueDefinition) : Bool :=
  d.type.isNonNull && d.default.isNone

structure FieldDefinition where
  description : Option String
  name : Name
  arguments : List InputValueDefinition
  type : TypeRef
  directives : List Directive
  deriving DecidableEq, Repr

structure EnumValueDefinition where
  description : Option String
  name : Name
  directives : List Directive
  deriving DecidableEq, Repr

/-- What a type consists of, by its kind. -/
inductive TypeBody where
  | scalar
  | object (interfaces : List Name) (fields : List FieldDefinition)
  | interface (interfaces : List Name) (fields : List FieldDefinition)
  | union (members : List Name)
  | enum (values : List EnumValueDefinition)
  | inputObject (fields : List InputValueDefinition)
  deriving DecidableEq, Repr

@[ext]
structure TypeDefinition where
  description : Option String
  name : Name
  directives : List Directive
  body : TypeBody
  deriving DecidableEq, Repr

namespace TypeDefinition

/-- The output fields of an object or interface type; no other type has any. -/
def fields (d : TypeDefinition) : List FieldDefinition :=
  match d.body with
  | .object _ fields | .interface _ fields => fields
  | .scalar | .union _ | .enum _ | .inputObject _ => []

def field? (d : TypeDefinition) (name : Name) : Option FieldDefinition :=
  d.fields.find? (·.name == name)

def interfaces (d : TypeDefinition) : List Name :=
  match d.body with
  | .object interfaces _ | .interface interfaces _ => interfaces
  | .scalar | .union _ | .enum _ | .inputObject _ => []

def isObject (d : TypeDefinition) : Bool :=
  match d.body with
  | .object .. => true
  | _ => false

def isInterface (d : TypeDefinition) : Bool :=
  match d.body with
  | .interface .. => true
  | _ => false

def isScalar (d : TypeDefinition) : Bool :=
  match d.body with
  | .scalar => true
  | _ => false

/-- A type on which a selection can be made. -/
def isComposite (d : TypeDefinition) : Bool :=
  match d.body with
  | .object .. | .interface .. | .union _ => true
  | .scalar | .enum _ | .inputObject _ => false

/-- An output type without parts to select. -/
def isLeaf (d : TypeDefinition) : Bool :=
  match d.body with
  | .scalar | .enum _ => true
  | .object .. | .interface .. | .union _ | .inputObject _ => false

end TypeDefinition

inductive OperationKind where
  | query
  | mutation
  | subscription
  deriving DecidableEq, Repr

def OperationKind.text : OperationKind → String
  | query => "query"
  | mutation => "mutation"
  | subscription => "subscription"

structure RootTypes where
  query? : Option Name
  mutation? : Option Name
  subscription? : Option Name
  deriving DecidableEq, Repr

namespace RootTypes

instance : EmptyCollection RootTypes := ⟨⟨none, none, none⟩⟩

def get? (roots : RootTypes) : OperationKind → Option Name
  | .query => roots.query?
  | .mutation => roots.mutation?
  | .subscription => roots.subscription?

def set (roots : RootTypes) (kind : OperationKind) (name : Name) : RootTypes :=
  match kind with
  | .query => { roots with query? := name }
  | .mutation => { roots with mutation? := name }
  | .subscription => { roots with subscription? := name }

/-- The roots that are given, queries before mutations before subscriptions. -/
def toList (roots : RootTypes) : List Name :=
  roots.query?.toList ++ roots.mutation?.toList ++ roots.subscription?.toList

end RootTypes

structure SchemaDefinition where
  directives : List Directive
  roots : RootTypes
  deriving DecidableEq, Repr

/-- What an extension adds to a schema or type, written like the definition it extends. -/
inductive Extension where
  | schema (added : SchemaDefinition)
  | type (added : TypeDefinition)
  deriving DecidableEq, Repr

structure DirectiveDefinition where
  description : Option String
  name : Name
  arguments : List InputValueDefinition
  isRepeatable : Bool
  locations : List Name
  deriving DecidableEq, Repr

end SchemaReshape
