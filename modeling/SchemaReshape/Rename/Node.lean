import SchemaReshape.Document.Node

/-!
# Renaming a single node

The nodes whose name renaming and merging may change, and such a node under another name.
-/

namespace SchemaReshape

def NodeKind.renameable : List NodeKind :=
  [enumTypeDefinition, field, fieldDefinition, interfaceTypeDefinition, namedType,
    objectTypeDefinition, unionTypeDefinition]

namespace Node

def withName (newName : Name) : Node → Node
  | typeDefinition d => typeDefinition { d with name := newName }
  | fieldDefinition d => fieldDefinition { d with name := newName }
  | typeRef (.named _) => typeRef (.named newName)
  | selection (.field head selections) =>
    selection (.field { head with name := newName } selections)
  | node => node

/-- The node under another name, or its kind if that kind cannot be renamed. -/
def rename (node : Node) (newName : Name) : Except NodeKind Node :=
  if node.kind ∈ NodeKind.renameable then pure (node.withName newName) else throw node.kind

end Node

end SchemaReshape
