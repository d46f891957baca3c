import SchemaReshape.Document.Node

/-!
# Traversal

`Document.tree` lays a document out as a tree of its nodes, children in document order. A visitor
has a hook for entering a node and one for leaving it, in any monad; `SyntaxTree.visit` runs the
hooks depth first, and `SyntaxTree.events` lists the same run as data.
-/

namespace SchemaReshape

inductive SyntaxTree where
  | node (root : Node) (children : List SyntaxTree)

namespace SyntaxTree

def leaf (root : Node) : SyntaxTree := node root []

def root : SyntaxTree → Node
  | node root _ => root

def children : SyntaxTree → List SyntaxTree
  | node _ children => children

mutual

/-- The nodes of the tree, each before its children. -/
def nodes : SyntaxTree → List Node
  | node root children => root :: forestNodes children

def forestNodes : List SyntaxTree → List Node
  | [] => []
  | t :: ts => t.nodes ++ forestNodes ts

end

end SyntaxTree

def TypeRef.tree : TypeRef → SyntaxTree
  | t@(named _) => .leaf (.typeRef t)
  | t@(list inner) => .node (.typeRef t) [inner.tree]
  | t@(nonNull inner) => .node (.typeRef t) [inner.tree]

namespace Value

mutual

def tree : Value → SyntaxTree
  | v@(list values) => .node (.value v) (trees values)
  | v@(object fields) => .node (.value v) (fieldTrees fields)
  | v@(var _) | v@(int _) | v@(float _) | v@(string _) | v@(boolean _) | v@null | v@(enum _) =>
    .leaf (.value v)

def trees : List Value → List SyntaxTree
  | [] => []
  | v :: vs => v.tree :: trees vs

def fieldTrees : List (Name × Value) → List SyntaxTree
  | [] => []
  | (n, v) :: fs => .node (.objectField n v) [v.tree] :: fieldTrees fs

end

end Value

def Argument.tree (a : Argument) : SyntaxTree := .node (.argument a) [a.value.tree]

def Directive.tree (d : Directive) : SyntaxTree :=
  .node (.directive d) (d.arguments.map Argument.tree)

def InputValueDefinition.tree (d : InputValueDefinition) : SyntaxTree :=
  .node (.inputValueDefinition d)
    (d.type.tree :: d.default.toList.map Value.tree ++ d.directives.map Directive.tree)

def FieldDefinition.tree (d : FieldDefinition) : SyntaxTree :=
  .node (.fieldDefinition d)
    (d.arguments.map InputValueDefinition.tree ++ d.type.tree :: d.directives.map Directive.tree)

def EnumValueDefinition.tree (d : EnumValueDefinition) : SyntaxTree :=
  .node (.enumValueDefinition d) (d.directives.map Directive.tree)

def Name.typeTree (n : Name) : SyntaxTree := .leaf (.typeRef (.named n))

def TypeDefinition.tree (d : TypeDefinition) : SyntaxTree :=
  let directives := d.directives.map Directive.tree
  .node (.typeDefinition d) <|
    match d.body with
    | .scalar => directives
    | .object interfaces fields | .interface interfaces fields =>
      interfaces.map Name.typeTree ++ directives ++ fields.map FieldDefinition.tree
    | .union members => directives ++ members.map Name.typeTree
    | .enum values => directives ++ values.map EnumValueDefinition.tree
    | .inputObject fields => directives ++ fields.map InputValueDefinition.tree

def SchemaDefinition.tree (d : SchemaDefinition) : SyntaxTree :=
  .node (.schemaDefinition d) (d.directives.map Directive.tree ++ d.roots.toList.map Name.typeTree)

def Extension.tree (e : Extension) : SyntaxTree :=
  .node (.extension e) <|
    match e with
    | .schema added => [added.tree]
    | .type added => [added.tree]

def DirectiveDefinition.tree (d : DirectiveDefinition) : SyntaxTree :=
  .node (.directiveDefinition d) (d.arguments.map InputValueDefinition.tree)

namespace Selection

mutual

def tree : Selection → SyntaxTree
  | s@(field head selections) =>
    .node (.selection s) (head.arguments.map Argument.tree ++ head.directives.map Directive.tree ++
      [.node (.selectionSet selections) (trees selections)])
  | s@(fragmentSpread _ directives) => .node (.selection s) (directives.map Directive.tree)
  | s@(inlineFragment condition? directives selections) =>
    .node (.selection s) (condition?.toList.map Name.typeTree ++ directives.map Directive.tree ++
      [.node (.selectionSet selections) (trees selections)])

def trees : List Selection → List SyntaxTree
  | [] => []
  | s :: ss => s.tree :: trees ss

end

def scopeTree (selections : List Selection) : SyntaxTree :=
  .node (.selectionSet selections) (trees selections)

end Selection

def VariableDefinition.tree (d : VariableDefinition) : SyntaxTree :=
  .node (.variableDefinition d)
    ((Value.var d.name).tree :: d.type.tree :: d.default.toList.map Value.tree ++
      d.directives.map Directive.tree)

def OperationDefinition.tree (d : OperationDefinition) : SyntaxTree :=
  .node (.operationDefinition d)
    (d.variableDefinitions.map VariableDefinition.tree ++ d.directives.map Directive.tree ++
      [Selection.scopeTree d.selections])

def FragmentDefinition.tree (d : FragmentDefinition) : SyntaxTree :=
  .node (.fragmentDefinition d)
    (d.condition.typeTree :: d.directives.map Directive.tree ++ [Selection.scopeTree d.selections])

def Definition.tree : Definition → SyntaxTree
  | schema d => d.tree
  | type d => d.tree
  | extension d => d.tree
  | directive d => d.tree
  | operation d => d.tree
  | fragment d => d.tree

namespace Document

def tree (d : Document) : SyntaxTree := .node (.document d) (d.definitions.map Definition.tree)

/-- Every node of the document, the document itself first, in document order. -/
def nodes (d : Document) : List Node := d.tree.nodes

end Document

/-- A hook for entering a node and one for leaving it. -/
structure Visitor (m : Type → Type) where
  enter : Node → m Unit
  leave : Node → m Unit

inductive Event where
  | enter (node : Node)
  | leave (node : Node)
  deriving DecidableEq, Repr

namespace Visitor

variable {m : Type → Type}

def handle (v : Visitor m) : Event → m Unit
  | .enter node => v.enter node
  | .leave node => v.leave node

def onEnter [Pure m] (enter : Node → m Unit) : Visitor m := ⟨enter, fun _ => pure ()⟩

end Visitor

namespace SyntaxTree

variable {m : Type → Type} [Monad m]

mutual

def events : SyntaxTree → List Event
  | node root children => .enter root :: forestEvents children ++ [.leave root]

def forestEvents : List SyntaxTree → List Event
  | [] => []
  | t :: ts => t.events ++ forestEvents ts

end

mutual

/-- Enters the root, visits the children in order and leaves the root. -/
def visit (v : Visitor m) : SyntaxTree → m Unit
  | node root children => do
    v.enter root
    visitForest v children
    v.leave root

def visitForest (v : Visitor m) : List SyntaxTree → m Unit
  | [] => pure ()
  | t :: ts => do
    visit v t
    visitForest v ts

end

mutual

/-- A traversal runs the hooks along the events of the tree. -/
theorem visit_eq_forM [LawfulMonad m] (v : Visitor m) :
    ∀ t : SyntaxTree, t.visit v = t.events.forM v.handle
  | node root children => by
    simp [visit, events, visitForest_eq_forM v children, Visitor.handle]

theorem visitForest_eq_forM [LawfulMonad m] (v : Visitor m) :
    ∀ ts : List SyntaxTree, visitForest v ts = (forestEvents ts).forM v.handle
  | [] => by simp [visitForest, forestEvents]
  | t :: ts => by
    simp [visitForest, forestEvents, visit_eq_forM v t, visitForest_eq_forM v ts]

end

end SyntaxTree

namespace Document

def events (d : Document) : List Event := d.tree.events

def visit {m : Type → Type} [Monad m] (d : Document) (v : Visitor m) : m Unit := d.tree.visit v

end Document

end SchemaReshape
