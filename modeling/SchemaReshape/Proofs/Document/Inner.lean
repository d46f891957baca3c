import SchemaReshape.Proofs.Document.Nodes

/-!
# Where nodes of a sort can occur

Values, type references, arguments and directives occur in definitions of all sorts and hold nothing
but each other. A selection holds besides these only selections and their scopes, and only
operations and fragments have selections.
-/

namespace SchemaReshape

open SyntaxTree

namespace Node

def isTerm : Node → Bool
  | typeRef _ | value _ | objectField .. => true
  | _ => false

/-- A part of definitions of all sorts, too small to be or to hold a definition or a selection. -/
def isInner : Node → Bool
  | typeRef _ | argument _ | directive _ | value _ | objectField .. | inputValueDefinition _
  | variableDefinition _ => true
  | _ => false

def isTypePart : Node → Bool
  | typeDefinition _ | fieldDefinition _ | enumValueDefinition _ => true
  | part => part.isInner

/-- A selection or a scope of selections. -/
def isSelected : Node → Bool
  | selection _ | selectionSet _ => true
  | _ => false

theorem isInner_of_isTerm {node : Node} (h : node.isTerm = true) : node.isInner = true := by
  cases node <;> first | rfl | exact nomatch h

theorem isTypePart_of_isInner {node : Node} (h : node.isInner = true) :
    node.isTypePart = true := by
  cases node <;> first | rfl | exact nomatch h

theorem isSelected_of_isTypePart {node : Node} (h : node.isTypePart = true) :
    node.isSelected = false := by
  cases node <;> first | rfl | exact nomatch h

theorem isSelected_of_isInner {node : Node} (h : node.isInner = true) :
    node.isSelected = false :=
  isSelected_of_isTypePart (isTypePart_of_isInner h)

end Node

theorem TypeRef.forall_nodes_term :
    ∀ t : TypeRef, ∀ node ∈ t.tree.nodes, node.isTerm = true
  | named _ => forall_nodes_leaf.2 rfl
  | list inner | nonNull inner => forall_nodes_node.2 ⟨rfl, by simpa using inner.forall_nodes_term⟩

theorem TypeRef.forall_nodes_inner (t : TypeRef) : ∀ node ∈ t.tree.nodes, node.isInner = true :=
  fun node h => Node.isInner_of_isTerm (t.forall_nodes_term node h)

namespace Value

mutual

theorem forall_nodes_term : ∀ v : Value, ∀ node ∈ v.tree.nodes, node.isTerm = true
  | var _ | int _ | float _ | string _ | boolean _ | null | enum _ => forall_nodes_leaf.2 rfl
  | list values => by
    rw [tree, forall_nodes_node]
    exact ⟨rfl, forall_trees_term values⟩
  | object fields => by
    rw [tree, forall_nodes_node]
    exact ⟨rfl, forall_fieldTrees_term fields⟩

theorem forall_trees_term : ∀ vs : List Value,
    ∀ t ∈ trees vs, ∀ node ∈ t.nodes, node.isTerm = true
  | [] => by simp [trees]
  | v :: vs => by
    rw [trees, List.forall_mem_cons]
    exact ⟨forall_nodes_term v, forall_trees_term vs⟩

theorem forall_fieldTrees_term : ∀ fs : List (Name × Value),
    ∀ t ∈ fieldTrees fs, ∀ node ∈ t.nodes, node.isTerm = true
  | [] => by simp [fieldTrees]
  | (_, v) :: fs => by
    rw [fieldTrees, List.forall_mem_cons, forall_nodes_node]
    exact ⟨⟨rfl, by simpa using forall_nodes_term v⟩, forall_fieldTrees_term fs⟩

end

theorem forall_nodes_inner (v : Value) : ∀ node ∈ v.tree.nodes, node.isInner = true :=
  fun node h => Node.isInner_of_isTerm (v.forall_nodes_term node h)

end Value

theorem Argument.forall_nodes_inner (a : Argument) :
    ∀ node ∈ a.tree.nodes, node.isInner = true :=
  Argument.forall_nodes.2 ⟨rfl, a.value.forall_nodes_inner⟩

theorem Directive.forall_nodes_inner (d : Directive) :
    ∀ node ∈ d.tree.nodes, node.isInner = true :=
  Directive.forall_nodes.2 ⟨rfl, fun a _ => a.forall_nodes_inner⟩

theorem InputValueDefinition.forall_nodes_inner (d : InputValueDefinition) :
    ∀ node ∈ d.tree.nodes, node.isInner = true :=
  InputValueDefinition.forall_nodes.2 ⟨rfl, d.type.forall_nodes_inner,
    fun v _ => v.forall_nodes_inner, fun x _ => x.forall_nodes_inner⟩

theorem VariableDefinition.forall_nodes_inner (d : VariableDefinition) :
    ∀ node ∈ d.tree.nodes, node.isInner = true :=
  VariableDefinition.forall_nodes.2 ⟨rfl, (Value.var d.name).forall_nodes_inner,
    d.type.forall_nodes_inner, fun v _ => v.forall_nodes_inner, fun x _ => x.forall_nodes_inner⟩

namespace Selection

mutual

theorem forall_nodes_selected : ∀ s : Selection,
    ∀ node ∈ s.tree.nodes, node.isInner = true ∨ node.isSelected = true
  | field _ selections | inlineFragment _ _ selections => by
    refine forall_nodes.2 ⟨.inr rfl, fun _ _ => .inl rfl,
      fun a _ node h => .inl (a.forall_nodes_inner node h),
      fun d _ node h => .inl (d.forall_nodes_inner node h), ?_⟩
    rintro _ ⟨⟩
    exact forall_nodes_node.2 ⟨.inr rfl, forall_trees_selected selections⟩
  | fragmentSpread _ directives =>
    forall_nodes.2 ⟨.inr rfl, nofun, nofun, fun d _ node h => .inl (d.forall_nodes_inner node h),
      nofun⟩

theorem forall_trees_selected : ∀ ss : List Selection,
    ∀ t ∈ trees ss, ∀ node ∈ t.nodes, node.isInner = true ∨ node.isSelected = true
  | [] => by simp [trees]
  | s :: ss => by
    rw [trees, List.forall_mem_cons]
    exact ⟨forall_nodes_selected s, forall_trees_selected ss⟩

end

theorem forall_scopeTree_selected (selections : List Selection) :
    ∀ node ∈ (scopeTree selections).nodes, node.isInner = true ∨ node.isSelected = true :=
  forall_nodes_node.2 ⟨.inr rfl, forall_trees_selected selections⟩

end Selection

section TypeSystem

theorem FieldDefinition.forall_nodes_typePart (d : FieldDefinition) :
    ∀ node ∈ d.tree.nodes, node.isTypePart = true :=
  FieldDefinition.forall_nodes.2 ⟨rfl,
    fun a _ node h => Node.isTypePart_of_isInner (a.forall_nodes_inner node h),
    fun node h => Node.isTypePart_of_isInner (d.type.forall_nodes_inner node h),
    fun x _ node h => Node.isTypePart_of_isInner (x.forall_nodes_inner node h)⟩

theorem TypeDefinition.forall_nodes_typePart (d : TypeDefinition) :
    ∀ node ∈ d.tree.nodes, node.isTypePart = true := by
  rw [TypeDefinition.forall_nodes, TypeDefinition.forall_children]
  refine ⟨rfl, fun _ _ => rfl,
    fun x _ node h => Node.isTypePart_of_isInner (x.forall_nodes_inner node h),
    fun field _ => field.forall_nodes_typePart, fun _ _ => rfl, fun v _ => ?_,
    fun field _ node h => Node.isTypePart_of_isInner (field.forall_nodes_inner node h)⟩
  exact EnumValueDefinition.forall_nodes.2 ⟨rfl,
    fun x _ node h => Node.isTypePart_of_isInner (x.forall_nodes_inner node h)⟩

theorem TypeDefinition.forall_nodes_unselected (d : TypeDefinition) :
    ∀ node ∈ d.tree.nodes, node.isSelected = false :=
  fun node h => Node.isSelected_of_isTypePart (d.forall_nodes_typePart node h)

theorem SchemaDefinition.forall_nodes_unselected (d : SchemaDefinition) :
    ∀ node ∈ d.tree.nodes, node.isSelected = false :=
  SchemaDefinition.forall_nodes.2 ⟨rfl,
    fun x _ node h => Node.isSelected_of_isInner (x.forall_nodes_inner node h), fun _ _ => rfl⟩

theorem Extension.forall_nodes_unselected (d : Extension) :
    ∀ node ∈ d.tree.nodes, node.isSelected = false := by
  rw [tree.eq_def, forall_nodes_node]
  cases d with
  | schema added => exact ⟨rfl, List.forall_mem_singleton.2 added.forall_nodes_unselected⟩
  | type added => exact ⟨rfl, List.forall_mem_singleton.2 added.forall_nodes_unselected⟩

theorem DirectiveDefinition.forall_nodes_unselected (d : DirectiveDefinition) :
    ∀ node ∈ d.tree.nodes, node.isSelected = false :=
  DirectiveDefinition.forall_nodes.2 ⟨rfl,
    fun a _ node h => Node.isSelected_of_isInner (a.forall_nodes_inner node h)⟩

end TypeSystem

theorem OperationDefinition.forall_nodes_of_inner {d : OperationDefinition} {P : Node → Prop}
    (hinner : ∀ node : Node, node.isInner = true → P node) (hroot : P (.operationDefinition d))
    (hscope : ∀ node ∈ (Selection.scopeTree d.selections).nodes, P node) :
    ∀ node ∈ d.tree.nodes, P node :=
  OperationDefinition.forall_nodes.2 ⟨hroot,
    fun v _ node h => hinner node (v.forall_nodes_inner node h),
    fun x _ node h => hinner node (x.forall_nodes_inner node h), hscope⟩

theorem FragmentDefinition.forall_nodes_of_inner {d : FragmentDefinition} {P : Node → Prop}
    (hinner : ∀ node : Node, node.isInner = true → P node) (hroot : P (.fragmentDefinition d))
    (hscope : ∀ node ∈ (Selection.scopeTree d.selections).nodes, P node) :
    ∀ node ∈ d.tree.nodes, P node :=
  FragmentDefinition.forall_nodes.2 ⟨hroot, hinner _ rfl,
    fun x _ node h => hinner node (x.forall_nodes_inner node h), hscope⟩

/-- Only operations and fragments have selections. -/
theorem Document.exists_scope_of_mem_nodes {document : Document} {x : Selection}
    (h : .selection x ∈ document.nodes) :
    (∃ d ∈ document.operations, .selection x ∈ (Selection.scopeTree d.selections).nodes) ∨
      ∃ d ∈ document.fragments, .selection x ∈ (Selection.scopeTree d.selections).nodes := by
  have hall : ∀ node ∈ document.nodes, node = .selection x →
      (∃ d ∈ document.operations, node ∈ (Selection.scopeTree d.selections).nodes) ∨
        ∃ d ∈ document.fragments, node ∈ (Selection.scopeTree d.selections).nodes := by
    have hunselected : ∀ node : Node, node.isSelected = false → node ≠ .selection x := by
      rintro node hnode rfl
      exact nomatch hnode
    have hinner : ∀ node : Node, node.isInner = true → node ≠ .selection x :=
      fun node hnode => hunselected node (Node.isSelected_of_isInner hnode)
    refine Document.forall_nodes.2 ⟨nofun, fun definition hd => ?_⟩
    cases definition with
    | schema d => exact fun node hn hx => absurd hx (hunselected _ (d.forall_nodes_unselected _ hn))
    | type d => exact fun node hn hx => absurd hx (hunselected _ (d.forall_nodes_unselected _ hn))
    | extension d =>
      exact fun node hn hx => absurd hx (hunselected _ (d.forall_nodes_unselected _ hn))
    | directive d =>
      exact fun node hn hx => absurd hx (hunselected _ (d.forall_nodes_unselected _ hn))
    | operation d =>
      exact d.forall_nodes_of_inner (fun node hnode hx => absurd hx (hinner node hnode)) nofun
        fun node hnode _ => .inl ⟨d, mem_operations.2 hd, hnode⟩
    | fragment d =>
      exact d.forall_nodes_of_inner (fun node hnode hx => absurd hx (hinner node hnode)) nofun
        fun node hnode _ => .inr ⟨d, mem_fragments.2 hd, hnode⟩
  exact hall _ h rfl

end SchemaReshape
