import SchemaReshape.Document.Basic

/-!
# Schemas

The definitions of a document together with the root type of each kind of operation, and what can
be looked up in them.
-/

namespace SchemaReshape

structure Schema where
  types : List TypeDefinition
  directives : List DirectiveDefinition
  queryType : Name
  mutationType? : Option Name
  subscriptionType? : Option Name
  deriving DecidableEq

namespace Schema

variable (s : Schema)

def type? (name : Name) : Option TypeDefinition := s.types.find? (·.name == name)

def directive? (name : Name) : Option DirectiveDefinition := s.directives.find? (·.name == name)

/-- The scalars of the language need no definition. -/
def isDefined (name : Name) : Bool := name.isBuiltinScalar || (s.type? name).isSome

def queryDefinition? : Option TypeDefinition := s.type? s.queryType

def implementers (interface : Name) : List Name :=
  (s.types.filter fun d => d.isObject && d.interfaces.contains interface).map (·.name)

/-- The object types that a value of the type can have: an object type itself, the implementers of
an interface and the members of a union. No other type has any. -/
def possibleTypes (name : Name) : NameSet :=
  match s.type? name with
  | none => ∅
  | some d =>
    match d.body with
    | .object .. => .ofList [d.name]
    | .interface .. => .ofList (s.implementers d.name)
    | .union members => .ofList members
    | .scalar | .enum _ | .inputObject _ => ∅

def customScalars : NameSet := .ofList ((s.types.filter (·.isScalar)).map (·.name))

end Schema

end SchemaReshape
