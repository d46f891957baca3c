import SchemaReshape.Fault.Query
import SchemaReshape.Merge.Basic
import SchemaReshape.Rename.Basic
import SchemaReshape.Rename.Node
import SchemaReshape.Text.Quoted

/-!
# Refusals

Why a schema or query cannot be transformed, over all operations, and what is told of it. Every
check is all or nothing: where there is a refusal, nothing has been transformed.
-/

namespace SchemaReshape

def IdentifierFault.message : IdentifierFault → String
  | empty => "schema identifiers must be nonempty"
  | illegalCharacters characters => "illegal characters " ++ Text.quotedCharSet characters
  | custom reason => reason

inductive Refusal where
  | identifier (identifier : String) (fault : IdentifierFault)
  | typeName (name : Name)
  | structural (fault : StructureFault)
  | renameConflict (report : NameConflicts)
  | mergeConflict (conflict : MergeConflict)
  | leftovers (leftovers : List Leftover)
  | edge (fault : EdgeFault)
  | query (fault : QueryFault)
  | nodeKind (kind : NodeKind)
  deriving DecidableEq

namespace Refusal

def ofSchemaFault : SchemaFault → Refusal
  | .structural fault => .structural fault
  | .typeName name => .typeName name

def ofRenameFault : RenameFault → Refusal
  | .schema fault => ofSchemaFault fault
  | .conflicts report => .renameConflict report
  | .leftovers ls => .leftovers ls

def ofMergeFault : MergeFault → Refusal
  | .identifier label fault => .identifier label fault
  | .schema fault => ofSchemaFault fault
  | .conflict conflict => .mergeConflict conflict
  | .edge fault => .edge fault

def message : Refusal → String
  | .identifier label fault =>
    "Schema identifier " ++ Text.quoted label ++ " is invalid: " ++ fault.message
  | typeName name =>
    "Name " ++ Text.quoted name ++ " is not a valid, unreserved GraphQL name. Valid, unreserved " ++
      "GraphQL names must consist of only alphanumeric characters and underscores, must not " ++
      "start with a numeric character, and must not start with double underscores."
  | structural fault => fault.message
  | renameConflict report => report.message
  | mergeConflict conflict => conflict.message
  | .leftovers ls => Leftover.report ls
  | edge fault => fault.message
  | query fault => fault.message
  | nodeKind kind =>
    let kinds := String.intercalate ", " (NodeKind.renameable.map NodeKind.text)
    "Nodes of kind " ++ kind.text ++ s!" cannot be renamed, only {kinds} nodes can."

end Refusal

end SchemaReshape
