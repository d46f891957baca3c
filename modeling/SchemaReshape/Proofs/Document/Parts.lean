import SchemaReshape.Proofs.Document.Nodes

/-!
# The parts of a node

`Node.parts` says what each node consists of, one level deep and in document order, without any
tree; `Node.at?` follows it to a place within a node. The tree of a document branches at every node
into just its parts (`Document.isGrown`).
-/

namespace SchemaReshape

open SyntaxTree

def Definition.node : Definition → Node
  | schema d => .schemaDefinition d
  | type d => .typeDefinition d
  | extension d => .extension d
  | directive d => .directiveDefinition d
  | operation d => .operationDefinition d
  | fragment d => .fragmentDefinition d

def Extension.node : Extension → Node
  | schema added => .schemaDefinition added
  | type added => .typeDefinition added

def Name.typeNode (n : Name) : Node := .typeRef (.named n)

/-- A type has the parts of its kind; directives come after the interfaces and before the rest. -/
def TypeDefinition.parts (d : TypeDefinition) : List Node :=
  d.interfaces.map Name.typeNode ++ d.directives.map .directive ++ d.fields.map .fieldDefinition ++
    d.members.map Name.typeNode ++ d.enumValues.map .enumValueDefinition ++
    d.inputFields.map .inputValueDefinition

def TypeRef.parts : TypeRef → List Node
  | named _ => []
  | list inner | nonNull inner => [.typeRef inner]

def Value.parts : Value → List Node
  | list values => values.map .value
  | object fields => fields.map fun f => .objectField f.1 f.2
  | var _ | int _ | float _ | string _ | boolean _ | null | enum _ => []

def Selection.parts (x : Selection) : List Node :=
  x.condition?.toList.map Name.typeNode ++ x.arguments.map .argument ++
    x.directives.map .directive ++ x.scope?.toList.map .selectionSet

namespace Node

/-- The parts that a node is made of at once, in document order. -/
def parts : Node → List Node
  | document d => d.definitions.map Definition.node
  | schemaDefinition d => d.directives.map directive ++ d.roots.toList.map Name.typeNode
  | typeDefinition d => d.parts
  | extension e => [e.node]
  | directiveDefinition d => d.arguments.map inputValueDefinition
  | operationDefinition d =>
    d.variableDefinitions.map variableDefinition ++ d.directives.map directive ++
      [selectionSet d.selections]
  | fragmentDefinition d =>
    d.condition.typeNode :: d.directives.map directive ++ [selectionSet d.selections]
  | fieldDefinition d =>
    d.arguments.map inputValueDefinition ++ typeRef d.type :: d.directives.map directive
  | inputValueDefinition d =>
    typeRef d.type :: d.default.toList.map value ++ d.directives.map directive
  | enumValueDefinition d => d.directives.map directive
  | variableDefinition d =>
    value (.var d.name) :: typeRef d.type :: d.default.toList.map value ++
      d.directives.map directive
  | typeRef t => t.parts
  | directive d => d.arguments.map argument
  | argument a => [value a.value]
  | value v => v.parts
  | objectField _ v => [value v]
  | selectionSet scope => scope.map selection
  | selection x => x.parts

/-- The node at a place within a node: a place says which part to take, level by level. -/
def at? (node : Node) : List Nat → Option Node
  | [] => some node
  | i :: place => node.parts[i]?.bind (at? · place)

end Node

namespace SyntaxTree

/-- The tree branches at each node into the parts of the node. -/
inductive IsGrown : SyntaxTree → Prop
  | node {root : Node} {children : List SyntaxTree} :
    children.map SyntaxTree.root = root.parts → (∀ t ∈ children, IsGrown t) →
      IsGrown (.node root children)

theorem isGrown_node {root : Node} {children : List SyntaxTree} :
    (SyntaxTree.node root children).IsGrown ↔
      children.map SyntaxTree.root = root.parts ∧ ∀ t ∈ children, t.IsGrown :=
  ⟨fun | .node hparts hchildren => ⟨hparts, hchildren⟩, fun h => .node h.1 h.2⟩

theorem isGrown_leaf {root : Node} (h : root.parts = []) : (leaf root).IsGrown :=
  .node h.symm (List.forall_mem_nil _)

end SyntaxTree

section Roots

@[simp] theorem TypeRef.root_tree (t : TypeRef) : t.tree.root = .typeRef t := by
  cases t <;> rfl

@[simp] theorem Value.root_tree (v : Value) : v.tree.root = .value v := by
  cases v <;> simp only [tree, leaf, SyntaxTree.root]

@[simp] theorem Argument.root_tree (a : Argument) : a.tree.root = .argument a := rfl

@[simp] theorem Directive.root_tree (d : Directive) : d.tree.root = .directive d := rfl

@[simp] theorem InputValueDefinition.root_tree (d : InputValueDefinition) :
    d.tree.root = .inputValueDefinition d := rfl

@[simp] theorem FieldDefinition.root_tree (d : FieldDefinition) :
    d.tree.root = .fieldDefinition d := rfl

@[simp] theorem EnumValueDefinition.root_tree (d : EnumValueDefinition) :
    d.tree.root = .enumValueDefinition d := rfl

@[simp] theorem Name.root_typeTree (n : Name) : n.typeTree.root = n.typeNode := rfl

@[simp] theorem Selection.root_tree (x : Selection) : x.tree.root = .selection x := by
  cases x <;> simp only [tree, SyntaxTree.root]

@[simp] theorem Selection.root_scopeTree (scope : List Selection) :
    (scopeTree scope).root = .selectionSet scope := rfl

@[simp] theorem VariableDefinition.root_tree (d : VariableDefinition) :
    d.tree.root = .variableDefinition d := rfl

@[simp] theorem Definition.root_tree (d : Definition) : d.tree.root = d.node := by
  cases d with
  | extension d => cases d <;> rfl
  | _ => rfl

end Roots

section Grown

@[simp] theorem Name.isGrown_typeTree (n : Name) : n.typeTree.IsGrown := isGrown_leaf rfl

@[simp] theorem TypeRef.isGrown : ∀ t : TypeRef, t.tree.IsGrown
  | named _ => isGrown_leaf rfl
  | list inner | nonNull inner =>
    .node (by simp [Node.parts, parts]) (by simpa using inner.isGrown)

namespace Value

theorem map_root_trees (vs : List Value) : (trees vs).map SyntaxTree.root = vs.map .value := by
  induction vs with
  | nil => rfl
  | cons v vs ih => rw [trees, List.map_cons, root_tree, ih, List.map_cons]

theorem map_root_fieldTrees (fs : List (Name × Value)) :
    (fieldTrees fs).map SyntaxTree.root = fs.map fun f => .objectField f.1 f.2 := by
  induction fs with
  | nil => rfl
  | cons f fs ih => rw [fieldTrees, List.map_cons, ih, SyntaxTree.root, List.map_cons]

mutual

@[simp] theorem isGrown : ∀ v : Value, v.tree.IsGrown
  | var _ | int _ | float _ | string _ | boolean _ | null | enum _ => isGrown_leaf rfl
  | list values => by
    rw [tree]
    exact .node (map_root_trees values) (isGrown_trees values)
  | object fields => by
    rw [tree]
    exact .node (map_root_fieldTrees fields) (isGrown_fieldTrees fields)

theorem isGrown_trees : ∀ vs : List Value, ∀ t ∈ trees vs, t.IsGrown
  | [] => by simp [trees]
  | v :: vs => by
    rw [trees, List.forall_mem_cons]
    exact ⟨isGrown v, isGrown_trees vs⟩

theorem isGrown_fieldTrees : ∀ fs : List (Name × Value), ∀ t ∈ fieldTrees fs, t.IsGrown
  | [] => by simp [fieldTrees]
  | (n, v) :: fs => by
    rw [fieldTrees, List.forall_mem_cons, isGrown_node]
    exact ⟨⟨by simp [Node.parts], by simpa using isGrown v⟩, isGrown_fieldTrees fs⟩

end

end Value

@[simp] theorem Argument.isGrown (a : Argument) : a.tree.IsGrown := by
  rw [tree, isGrown_node]
  simp [Node.parts]

@[simp] theorem Directive.isGrown (d : Directive) : d.tree.IsGrown := by
  rw [tree, isGrown_node]
  simp [Node.parts, Function.comp_def]

@[simp] theorem InputValueDefinition.isGrown (d : InputValueDefinition) : d.tree.IsGrown := by
  rw [tree, isGrown_node]
  simp [Node.parts, Function.comp_def, or_imp, forall_and]

@[simp] theorem FieldDefinition.isGrown (d : FieldDefinition) : d.tree.IsGrown := by
  rw [tree, isGrown_node]
  simp [Node.parts, Function.comp_def, or_imp, forall_and]

@[simp] theorem EnumValueDefinition.isGrown (d : EnumValueDefinition) : d.tree.IsGrown := by
  rw [tree, isGrown_node]
  simp [Node.parts, Function.comp_def]

@[simp] theorem TypeDefinition.isGrown (d : TypeDefinition) : d.tree.IsGrown := by
  rw [tree, isGrown_node]
  obtain ⟨description, name, directives, body⟩ := d
  cases body <;>
    simp [Node.parts, parts, interfaces, fields, members, enumValues, inputFields,
      Function.comp_def, or_imp, forall_and]

@[simp] theorem SchemaDefinition.isGrown (d : SchemaDefinition) : d.tree.IsGrown := by
  rw [tree, isGrown_node]
  simp [Node.parts, Function.comp_def, or_imp, forall_and]

@[simp] theorem Extension.isGrown (e : Extension) : e.tree.IsGrown := by
  cases e with
  | schema added => exact .node rfl (List.forall_mem_singleton.2 added.isGrown)
  | type added => exact .node rfl (List.forall_mem_singleton.2 added.isGrown)

@[simp] theorem DirectiveDefinition.isGrown (d : DirectiveDefinition) : d.tree.IsGrown := by
  rw [tree, isGrown_node]
  simp [Node.parts, Function.comp_def]

namespace Selection

theorem map_root_trees (xs : List Selection) :
    (trees xs).map SyntaxTree.root = xs.map .selection := by
  induction xs with
  | nil => rfl
  | cons x xs ih => rw [trees, List.map_cons, root_tree, ih, List.map_cons]

/-- A selection is grown if the scope below it is. -/
theorem isGrown_of_scope {x : Selection} (h : ∀ scope ∈ x.scope?, (scopeTree scope).IsGrown) :
    x.tree.IsGrown := by
  cases x with
  | field head selections =>
    rw [tree, ← scopeTree, isGrown_node]
    simp [Node.parts, parts, condition?, arguments, directives, scope?, Function.comp_def, or_imp,
      forall_and, h selections rfl]
  | fragmentSpread =>
    rw [tree, isGrown_node]
    simp [Node.parts, parts, condition?, arguments, directives, scope?, Function.comp_def]
  | inlineFragment condition? applied selections =>
    rw [tree, ← scopeTree, isGrown_node]
    simp [Node.parts, parts, Selection.condition?, arguments, directives, scope?,
      Function.comp_def, or_imp, forall_and, h selections rfl]

mutual

theorem isGrown : ∀ x : Selection, x.tree.IsGrown
  | field _ selections | inlineFragment _ _ selections =>
    isGrown_of_scope fun
      | _, rfl => .node (map_root_trees selections) (isGrown_trees selections)
  | fragmentSpread .. => isGrown_of_scope nofun

theorem isGrown_trees : ∀ xs : List Selection, ∀ t ∈ trees xs, t.IsGrown
  | [] => by simp [trees]
  | x :: xs => by
    rw [trees, List.forall_mem_cons]
    exact ⟨isGrown x, isGrown_trees xs⟩

end

@[simp] theorem isGrown_scopeTree (scope : List Selection) : (scopeTree scope).IsGrown :=
  .node (map_root_trees scope) (isGrown_trees scope)

end Selection

@[simp] theorem VariableDefinition.isGrown (d : VariableDefinition) : d.tree.IsGrown := by
  rw [tree, isGrown_node]
  simp [Node.parts, Function.comp_def, or_imp, forall_and]

@[simp] theorem OperationDefinition.isGrown (d : OperationDefinition) : d.tree.IsGrown := by
  rw [tree, isGrown_node]
  simp [Node.parts, Function.comp_def, or_imp, forall_and]

@[simp] theorem FragmentDefinition.isGrown (d : FragmentDefinition) : d.tree.IsGrown := by
  rw [tree, isGrown_node]
  simp [Node.parts, Function.comp_def, or_imp, forall_and]

@[simp] theorem Definition.isGrown (d : Definition) : d.tree.IsGrown := by
  cases d with
  | schema d => exact d.isGrown
  | type d => exact d.isGrown
  | extension d => exact d.isGrown
  | directive d => exact d.isGrown
  | operation d => exact d.isGrown
  | fragment d => exact d.isGrown

/-- The tree of a document branches into the parts of its nodes. -/
theorem Document.isGrown (d : Document) : d.tree.IsGrown := by
  rw [tree, isGrown_node]
  simp [Node.parts, Function.comp_def]

end Grown

end SchemaReshape
