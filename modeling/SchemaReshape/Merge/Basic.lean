import SchemaReshape.Catalogue
import SchemaReshape.Merge.Edge
import SchemaReshape.Schema.Supported
import SchemaReshape.Settings

/-!
# Merging schemas

What has to hold before several schemas are merged into one: their labels are usable, each is
supported on its own, no two define the same type, and the edges between them are well formed. The
query types of all the schemas become one type, and scalars of one name are one scalar.
-/

namespace SchemaReshape

/-- A name that the merged schema would have twice. -/
inductive MergeConflict where
  | type (type : Name) (firstSchema secondSchema : String)
  | edgeField (schemaId : String) (type field : Name)
  deriving DecidableEq, Repr

namespace MergeConflict

def message : MergeConflict → String
  | .type name firstSchema secondSchema =>
    s!"Type {name} is defined in both schema {firstSchema} and schema {secondSchema}. Rename or " ++
      "suppress it in one of them before merging."
  | .edgeField schemaId name field =>
    s!"The cross-schema edge field {name}.{field} conflicts with an existing field of {name} in " ++
      s!"schema {schemaId}. Choose a different edge name."

end MergeConflict

inductive MergeFault where
  | identifier (identifier : String) (fault : IdentifierFault)
  | schema (fault : SchemaFault)
  | conflict (conflict : MergeConflict)
  | edge (fault : EdgeFault)
  deriving DecidableEq

/-- A type of one of the schemas, and what it can share its name with. -/
structure TypeClaim where
  type : Name
  schemaId : String
  isQueryType : Bool
  isScalar : Bool
  deriving DecidableEq, Repr

namespace TypeClaim

/-- Two query types become one, as do two scalars of one name. -/
def mergesWith (a b : TypeClaim) : Bool :=
  (a.isQueryType && b.isQueryType) || (a.isScalar && b.isScalar)

/-- The types of a schema that claim their name; a scalar that counts as built in does not. -/
def ofSchema (settings : Settings) (schemaId : String) (schema : Schema) : List TypeClaim :=
  (schema.types.filter fun d => !(settings.isBuiltinScalar d.name && d.isScalar)).map fun d =>
    ⟨d.name, schemaId, d.name == schema.queryType, d.isScalar⟩

/-- Each claim has to merge with the first one for its name. `seen` are the claims before. -/
def check (seen : List TypeClaim) : List TypeClaim → Except MergeConflict Unit
  | [] => pure ()
  | claim :: rest =>
    match seen.find? (·.type == claim.type) with
    | none => check (seen ++ [claim]) rest
    | some first =>
      if first.mergesWith claim then check seen rest
      else throw (.type claim.type first.schemaId claim.schemaId)

end TypeClaim

abbrev SchemaList := List (String × Schema)

namespace Endpoint

variable (r : Endpoint) (schemas : SchemaList)

def owner : Except EdgeReason (Schema × TypeDefinition) :=
  match schemas.lookup r.schemaId with
  | none => throw (.unknownSchema r.schemaId)
  | some schema =>
    if r.type = schema.queryType then throw (.queryType r.schemaId r.type)
    else
      match schema.type? r.type with
      | none => throw (.unknownType r.schemaId r.type)
      | some d =>
        if d.isObject || d.isInterface then pure (schema, d)
        else throw (.noFields r.schemaId r.type)

def scalarType : Except EdgeReason Name := do
  let (schema, d) ← r.owner schemas
  match d.field? r.field with
  | none => throw (.unknownField r.schemaId r.type r.field)
  | some field =>
    let name := field.type.baseName
    let isScalar :=
      match schema.type? name with
      | some d => d.isScalar
      | none => name.isBuiltinScalar
    if isScalar then pure name
    else throw (.notScalar r.schemaId r.type r.field name)

def checkAdded (added : Name) : Except MergeConflict Unit :=
  match (schemas.lookup r.schemaId).bind (·.type? r.type) with
  | none => pure ()
  | some d =>
    if (d.field? added).isSome then throw (.edgeField r.schemaId r.type added) else pure ()

end Endpoint

namespace Edge

variable (schemas : SchemaList) (e : Edge)

def checkEndpoints : Except EdgeReason Unit := do
  if !e.name.isLegal then throw .illegalName
  if e.outbound.schemaId = e.inbound.schemaId then throw (.sameSchema e.outbound.schemaId)
  let outboundType ← e.outbound.scalarType schemas
  let inboundType ← e.inbound.scalarType schemas
  if outboundType ≠ inboundType then throw (.typeMismatch e outboundType inboundType)

def checkFields : Except MergeConflict Unit := do
  e.outbound.checkAdded schemas e.outField
  if !e.outOnly then e.inbound.checkAdded schemas e.inField

def check (seen : List Name) : List Edge → Except MergeFault Unit
  | [] => pure ()
  | e :: rest => do
    if seen.contains e.name then throw (.edge (.repeated e.name))
    (e.checkEndpoints schemas).mapError fun reason => .edge (.invalid e.name reason)
    (e.checkFields schemas).mapError .conflict
    check (e.name :: seen) rest

end Edge

/-- Schemas and edges that can be merged. -/
structure Mergeable where
  schemas : SchemaList
  edges : List Edge
  deriving DecidableEq

namespace Mergeable

def checkSchema (labelled : String × Document) : Except MergeFault (String × Schema) := do
  (checkIdentifier labelled.1).mapError (.identifier labelled.1)
  let schema ← labelled.2.supportedSchema.mapError .schema
  return (labelled.1, schema)

/-- The schemas in order, then the names of their types, then the edges in order. -/
def check (documents : Catalogue Document) (edges : List Edge) (settings : Settings) :
    Except MergeFault Mergeable := do
  let schemas ← documents.toList.mapM checkSchema
  let claims := schemas.flatMap fun s => TypeClaim.ofSchema settings s.1 s.2
  (TypeClaim.check [] claims).mapError .conflict
  Edge.check schemas [] edges
  return ⟨schemas, edges⟩

end Mergeable

end SchemaReshape
