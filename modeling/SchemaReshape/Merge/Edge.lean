import SchemaReshape.Schema.Basic

/-!
# Cross-schema edges

An edge joins a type of one schema to a type of another where the values of two scalar fields are
equal. Merging adds an out-field to the outbound type and, unless the edge goes only one way, an
in-field to the inbound type.
-/

namespace SchemaReshape

/-- A field of a type in one of the merged schemas. -/
structure Endpoint where
  schemaId : String
  type : Name
  field : Name
  deriving DecidableEq, Repr

structure Edge where
  name : Name
  outbound : Endpoint
  inbound : Endpoint
  outOnly : Bool
  deriving DecidableEq, Repr

namespace Edge

def outField (e : Edge) : Name := "out_" ++ e.name

def inField (e : Edge) : Name := "in_" ++ e.name

end Edge

inductive EdgeReason where
  | illegalName
  | sameSchema (schemaId : String)
  | typeMismatch (edge : Edge) (outboundType inboundType : Name)
  | unknownSchema (schemaId : String)
  | queryType (schemaId : String) (type : Name)
  | noFields (schemaId : String) (type : Name)
  | unknownType (schemaId : String) (type : Name)
  | unknownField (schemaId : String) (type field : Name)
  | notScalar (schemaId : String) (type field fieldType : Name)
  deriving DecidableEq, Repr

def EdgeReason.message : EdgeReason → String
  | illegalName =>
    "edge names must consist of alphanumeric characters and underscores, and not start with " ++
      "a digit."
  | sameSchema schemaId =>
    s!"both of its endpoints are in schema {schemaId}, but cross-schema edges must join two " ++
      "different schemas."
  | typeMismatch edge outboundType inboundType =>
    "the outbound field " ++ edge.outbound.type ++ "." ++ edge.outbound.field ++
      s!" is of type {outboundType}, but the inbound field " ++ edge.inbound.type ++ "." ++
      edge.inbound.field ++ s!" is of type {inboundType}."
  | unknownSchema schemaId => s!"schema {schemaId} is not one of the merged schemas."
  | queryType schemaId type =>
    s!"{type} is the query type of schema {schemaId}, which cannot be joined."
  | noFields schemaId type =>
    s!"type {type} of schema {schemaId} is not an object or interface type."
  | unknownType schemaId type => s!"schema {schemaId} does not define the type {type}."
  | unknownField schemaId type field =>
    s!"type {type} of schema {schemaId} has no field {field}."
  | notScalar schemaId type field fieldType =>
    s!"the field {type}.{field} of schema {schemaId} is of type {fieldType}, but edges can only " ++
      "join scalar fields."

inductive EdgeFault where
  | repeated (edge : Name)
  | invalid (edge : Name) (reason : EdgeReason)
  deriving DecidableEq, Repr

def EdgeFault.message : EdgeFault → String
  | repeated edge => s!"The cross-schema edge {edge} is defined more than once."
  | invalid edge reason => s!"The cross-schema edge {edge} is invalid: " ++ reason.message

end SchemaReshape
