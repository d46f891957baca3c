import SchemaReshape.Document.TypeSystem

/-!
# Why a text is no document

A text may break the grammar, or follow it and say something that no document can: two roots of
one kind, two operations of one name, selections nested too deep.
-/

namespace SchemaReshape

inductive SyntaxFault where
  | malformed
  | numberTooLarge
  | noQueryRoot
  | repeatedRoot (kind : OperationKind)
  | multipleOperations
  | repeatedOperation (name : Name)
  | repeatedFragment (name : Name)
  | noOperation
  | nestedTooDeep
  deriving DecidableEq, Repr

/-- What breaks the grammar is not told further. -/
def SyntaxFault.message : SyntaxFault → String
  | malformed | numberTooLarge => "<syntax error>"
  | noQueryRoot => "schema definition is missing query root"
  | repeatedRoot kind => "multiple " ++ kind.text ++ " roots in schema definition"
  | multipleOperations => "document contains multiple operations"
  | repeatedOperation name => s!"operation {name} is defined twice"
  | repeatedFragment name => s!"fragment {name} is defined twice"
  | noOperation => "document does not contain an operation"
  | nestedTooDeep => "recursion limit exceeded."

end SchemaReshape
