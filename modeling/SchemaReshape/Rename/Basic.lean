import SchemaReshape.Rename.Apply
import SchemaReshape.Rename.Conflict
import SchemaReshape.Schema.Supported

/-!
# Renaming a schema

`Document.rename` checks a plan completely before it applies any of it: the schema has to be
supported, the entries of the plan possible, the new names free of conflicts and the suppressions
free of leftovers. Entries for what the schema does not define are ignored.
-/

namespace SchemaReshape

inductive RenameFault where
  | schema (fault : SchemaFault)
  | conflicts (report : NameConflicts)
  | leftovers (leftovers : List Leftover)
  deriving DecidableEq

/-- A document under a plan, and the former name of each renamed type by its new name. -/
structure RenamedDocument where
  document : Document
  formerNames : NameMap Name
  deriving DecidableEq

namespace Schema

variable (s : Schema)

/-- An entry for a defined type must rename it to a usable name or suppress it; a scalar admits
neither, and the query type cannot be suppressed. -/
def checkEntry (type : Name) (change : TypeChange) : Except SchemaFault Unit :=
  match s.type? type with
  | none => pure ()
  | some d =>
    if d.isScalar then throw (.structural (.scalarInPlan type))
    else
      match change with
      | .rename newName => if newName.isTypeName then pure () else throw (.typeName newName)
      | .suppress =>
        if type = s.queryType then throw (.structural (.queryTypeSuppressed type)) else pure ()

def checkPlan (plan : Plan) : Except SchemaFault Unit :=
  plan.types.toList.forM fun e => s.checkEntry e.1 e.2

def formerNames (plan : Plan) : NameMap Name :=
  .ofList <| plan.types.toList.filterMap fun e =>
    match e.2 with
    | .rename newName =>
      if newName != e.1 && s.isDefined e.1 then some (newName, e.1) else none
    | .suppress => none

end Schema

namespace Plan

variable (plan : Plan)

/-- A schema definition for a query type that no longer has the name by which it would be found. -/
def rootDefinition (queryType : Name) (definitions : List Definition) : List Definition :=
  let newName := plan.newName queryType
  if (definitions.any fun d => d.schema?.isSome) || newName == queryType then []
  else [.schema ⟨[], ⟨some newName, none, none⟩⟩]

def applyDocument (queryType : Name) (document : Document) : Document :=
  let definitions := plan.applyDefinitions queryType document.definitions
  ⟨plan.rootDefinition queryType definitions ++ definitions⟩

end Plan

namespace Document

def rename (document : Document) (plan : Plan) (settings : Settings) :
    Except RenameFault RenamedDocument := do
  let schema ← document.supportedSchema.mapError .schema
  (schema.checkPlan plan).mapError .schema
  (schema.checkConflicts plan settings).mapError .conflicts
  (schema.checkLeftovers plan.suppressions).mapError .leftovers
  return ⟨plan.applyDocument schema.queryType document, schema.formerNames plan⟩

end Document

end SchemaReshape
