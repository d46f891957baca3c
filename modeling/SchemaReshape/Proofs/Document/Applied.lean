import SchemaReshape.Proofs.Document.Arguments

/-!
# The directives and scopes of a document

`Document.appliedDirectives` and `Document.scopes` gather the directives and the selection scopes of
a document definition by definition, without its tree. A traversal meets just these
(`Document.forall_appliedDirectives_iff`, `Document.forall_scopes_iff`).
-/

namespace SchemaReshape

open SyntaxTree

namespace Selection

mutual

/-- The directives applied in the selection, at any depth. -/
def appliedDirectives : Selection → List Directive
  | field head selections => head.directives ++ scopeDirectives selections
  | fragmentSpread _ directives => directives
  | inlineFragment _ directives selections => directives ++ scopeDirectives selections

def scopeDirectives : List Selection → List Directive
  | [] => []
  | x :: xs => x.appliedDirectives ++ scopeDirectives xs

end

mutual

/-- The scopes below the selection, at any depth. -/
def scopes : Selection → List (List Selection)
  | field _ selections | inlineFragment _ _ selections => selections :: scopesBelow selections
  | fragmentSpread .. => []

/-- The scopes below the selections of a scope, without the scope itself. -/
def scopesBelow : List Selection → List (List Selection)
  | [] => []
  | x :: xs => x.scopes ++ scopesBelow xs

end

end Selection

def FieldDefinition.appliedDirectives (d : FieldDefinition) : List Directive :=
  d.arguments.flatMap (·.directives) ++ d.directives

def TypeDefinition.appliedDirectives (d : TypeDefinition) : List Directive :=
  d.directives ++ d.fields.flatMap (·.appliedDirectives) ++ d.enumValues.flatMap (·.directives) ++
    d.inputFields.flatMap (·.directives)

def OperationDefinition.appliedDirectives (d : OperationDefinition) : List Directive :=
  d.variableDefinitions.flatMap (·.directives) ++ d.directives ++
    Selection.scopeDirectives d.selections

def FragmentDefinition.appliedDirectives (d : FragmentDefinition) : List Directive :=
  d.directives ++ Selection.scopeDirectives d.selections

def Extension.appliedDirectives : Extension → List Directive
  | schema added => added.directives
  | type added => added.appliedDirectives

def Definition.appliedDirectives : Definition → List Directive
  | schema d => d.directives
  | type d => d.appliedDirectives
  | extension d => d.appliedDirectives
  | directive d => d.arguments.flatMap (·.directives)
  | operation d => d.appliedDirectives
  | fragment d => d.appliedDirectives

def Definition.scopes : Definition → List (List Selection)
  | operation d => d.selections :: Selection.scopesBelow d.selections
  | fragment d => d.selections :: Selection.scopesBelow d.selections
  | schema _ | type _ | extension _ | directive _ => []

namespace Document

def appliedDirectives (document : Document) : List Directive :=
  document.definitions.flatMap (·.appliedDirectives)

def scopes (document : Document) : List (List Selection) :=
  document.definitions.flatMap (·.scopes)

end Document

section Directives

variable {R : Directive → Prop}

theorem TypeRef.forall_directives (t : TypeRef) :
    ∀ node ∈ t.tree.nodes, ∀ x, node = .directive x → R x := fun node h =>
  Node.forall_directive_of_not_applied node (Node.isApplied_of_isTerm (t.forall_nodes_term node h))

theorem Value.forall_directives (v : Value) :
    ∀ node ∈ v.tree.nodes, ∀ x, node = .directive x → R x := fun node h =>
  Node.forall_directive_of_not_applied node (Node.isApplied_of_isTerm (v.forall_nodes_term node h))

theorem InputValueDefinition.forall_directives_iff {d : InputValueDefinition} :
    (∀ node ∈ d.tree.nodes, ∀ x, node = .directive x → R x) ↔ ∀ x ∈ d.directives, R x := by
  rw [InputValueDefinition.forall_nodes, and_iff_right nofun,
    and_iff_right d.type.forall_directives, and_iff_right fun v _ => v.forall_directives]
  simp only [Directive.forall_directives_iff]

theorem FieldDefinition.forall_directives_iff {d : FieldDefinition} :
    (∀ node ∈ d.tree.nodes, ∀ x, node = .directive x → R x) ↔ ∀ x ∈ d.appliedDirectives, R x := by
  rw [FieldDefinition.forall_nodes, and_iff_right nofun, and_iff_right d.type.forall_directives,
    appliedDirectives, List.forall_mem_append, List.forall_mem_flatMap]
  simp only [InputValueDefinition.forall_directives_iff, Directive.forall_directives_iff]

theorem EnumValueDefinition.forall_directives_iff {d : EnumValueDefinition} :
    (∀ node ∈ d.tree.nodes, ∀ x, node = .directive x → R x) ↔ ∀ x ∈ d.directives, R x := by
  rw [EnumValueDefinition.forall_nodes, and_iff_right nofun]
  simp only [Directive.forall_directives_iff]

theorem TypeDefinition.forall_directives_iff {d : TypeDefinition} :
    (∀ node ∈ d.tree.nodes, ∀ x, node = .directive x → R x) ↔ ∀ x ∈ d.appliedDirectives, R x := by
  rw [TypeDefinition.forall_nodes, and_iff_right nofun, TypeDefinition.forall_children,
    and_iff_right fun _ _ => nofun, appliedDirectives]
  simp only [List.forall_mem_append, List.forall_mem_flatMap, Directive.forall_directives_iff,
    FieldDefinition.forall_directives_iff, EnumValueDefinition.forall_directives_iff,
    InputValueDefinition.forall_directives_iff, and_assoc]
  refine and_congr_right fun _ => and_congr_right fun _ => and_iff_right fun _ _ => nofun

theorem SchemaDefinition.forall_directives_iff {d : SchemaDefinition} :
    (∀ node ∈ d.tree.nodes, ∀ x, node = .directive x → R x) ↔ ∀ x ∈ d.directives, R x := by
  rw [SchemaDefinition.forall_nodes, and_iff_right nofun, and_iff_left fun _ _ => nofun]
  simp only [Directive.forall_directives_iff]

theorem Extension.forall_directives_iff {d : Extension} :
    (∀ node ∈ d.tree.nodes, ∀ x, node = .directive x → R x) ↔ ∀ x ∈ d.appliedDirectives, R x := by
  rw [tree.eq_def, forall_nodes_node, and_iff_right (Node.forall_directive_of_not_applied _ rfl)]
  cases d with
  | schema added => exact List.forall_mem_singleton.trans added.forall_directives_iff
  | type added => exact List.forall_mem_singleton.trans added.forall_directives_iff

theorem DirectiveDefinition.forall_directives_iff {d : DirectiveDefinition} :
    (∀ node ∈ d.tree.nodes, ∀ x, node = .directive x → R x) ↔
      ∀ x ∈ d.arguments.flatMap (·.directives), R x := by
  rw [DirectiveDefinition.forall_nodes, and_iff_right nofun, List.forall_mem_flatMap]
  simp only [InputValueDefinition.forall_directives_iff]

namespace Selection

/-- The directives in a selection are its own and those within its scope. -/
theorem forall_directives_iff_of_scope {x : Selection} :
    (∀ node ∈ x.tree.nodes, ∀ d, node = .directive d → R d) ↔ (∀ d ∈ x.directives, R d) ∧
      ∀ scope ∈ x.scope?, ∀ t ∈ trees scope, ∀ node ∈ t.nodes, ∀ d, node = .directive d → R d := by
  rw [forall_nodes, and_iff_right nofun, and_iff_right fun _ _ => nofun,
    and_iff_right fun a _ => a.forall_directives]
  simp only [Directive.forall_directives_iff, scopeTree, forall_nodes_node, reduceCtorEq,
    false_implies, implies_true, true_and]

mutual

theorem forall_appliedDirectives_iff : ∀ x : Selection,
    (∀ node ∈ x.tree.nodes, ∀ d, node = .directive d → R d) ↔ ∀ d ∈ x.appliedDirectives, R d
  | field head selections => by
    rw [forall_directives_iff_of_scope, appliedDirectives, List.forall_mem_append,
      ← forall_scopeDirectives_iff selections]
    simp only [directives, scope?, Option.mem_def, Option.some.injEq, forall_eq']
  | inlineFragment _ directives' selections => by
    rw [forall_directives_iff_of_scope, appliedDirectives, List.forall_mem_append,
      ← forall_scopeDirectives_iff selections]
    simp only [directives, scope?, Option.mem_def, Option.some.injEq, forall_eq']
  | fragmentSpread .. => by
    rw [forall_directives_iff_of_scope, and_iff_left nofun, directives, appliedDirectives]

theorem forall_scopeDirectives_iff : ∀ xs : List Selection,
    (∀ t ∈ trees xs, ∀ node ∈ t.nodes, ∀ d, node = .directive d → R d) ↔
      ∀ d ∈ scopeDirectives xs, R d
  | [] => by simp [trees, scopeDirectives]
  | x :: xs => by
    rw [trees, List.forall_mem_cons, scopeDirectives, List.forall_mem_append,
      forall_appliedDirectives_iff x, forall_scopeDirectives_iff xs]

end

end Selection

theorem Selection.forall_scopeTree_directives_iff {scope : List Selection} :
    (∀ d, .directive d ∈ (scopeTree scope).nodes → R d) ↔ ∀ d ∈ scopeDirectives scope, R d := by
  rw [Node.forall_directive_iff, scopeTree, forall_nodes_node, and_iff_right nofun,
    forall_scopeDirectives_iff]

theorem OperationDefinition.forall_appliedDirectives_iff {d : OperationDefinition} :
    (∀ x, .directive x ∈ d.tree.nodes → R x) ↔ ∀ x ∈ d.appliedDirectives, R x := by
  rw [forall_directives_iff, Selection.forall_scopeTree_directives_iff, appliedDirectives,
    List.forall_mem_append, List.forall_mem_append, List.forall_mem_flatMap, and_assoc]

theorem FragmentDefinition.forall_appliedDirectives_iff {d : FragmentDefinition} :
    (∀ x, .directive x ∈ d.tree.nodes → R x) ↔ ∀ x ∈ d.appliedDirectives, R x := by
  rw [forall_directives_iff, Selection.forall_scopeTree_directives_iff, appliedDirectives,
    List.forall_mem_append]

theorem Definition.forall_appliedDirectives_iff {d : Definition} :
    (∀ x, .directive x ∈ d.tree.nodes → R x) ↔ ∀ x ∈ d.appliedDirectives, R x := by
  cases d with
  | schema d => exact Node.forall_directive_iff.trans d.forall_directives_iff
  | type d => exact Node.forall_directive_iff.trans d.forall_directives_iff
  | extension d => exact Node.forall_directive_iff.trans d.forall_directives_iff
  | directive d => exact Node.forall_directive_iff.trans d.forall_directives_iff
  | operation d => exact d.forall_appliedDirectives_iff
  | fragment d => exact d.forall_appliedDirectives_iff

/-- The directives that a traversal of the document meets. -/
theorem Document.forall_appliedDirectives_iff {document : Document} :
    (∀ d, .directive d ∈ document.nodes → R d) ↔ ∀ d ∈ document.appliedDirectives, R d := by
  rw [Node.forall_directive_iff, Document.forall_nodes, and_iff_right nofun, appliedDirectives,
    List.forall_mem_flatMap]
  simp only [← Definition.forall_appliedDirectives_iff, Node.forall_directive_iff]

end Directives

section Scopes

variable {R : List Selection → Prop}

theorem Node.forall_scope_of_not_selected {node : Node} (h : node.isSelected = false) :
    ∀ scope, node = .selectionSet scope → R scope := by
  rintro scope rfl
  exact nomatch h

theorem Node.forall_scope_of_isInner {node : Node} (h : node.isInner = true) :
    ∀ scope, node = .selectionSet scope → R scope :=
  forall_scope_of_not_selected (isSelected_of_isInner h)

namespace Selection

theorem forall_scopes_iff_of_scope {x : Selection} :
    (∀ node ∈ x.tree.nodes, ∀ scope, node = .selectionSet scope → R scope) ↔
      ∀ scope ∈ x.scope?, ∀ node ∈ (scopeTree scope).nodes, ∀ inner,
        node = .selectionSet inner → R inner := by
  rw [forall_nodes, and_iff_right nofun, and_iff_right fun _ _ => nofun,
    and_iff_right fun a _ node h => Node.forall_scope_of_isInner (a.forall_nodes_inner node h),
    and_iff_right fun d _ node h => Node.forall_scope_of_isInner (d.forall_nodes_inner node h)]

mutual

theorem forall_scopes_iff : ∀ x : Selection,
    (∀ node ∈ x.tree.nodes, ∀ scope, node = .selectionSet scope → R scope) ↔
      ∀ scope ∈ x.scopes, R scope
  | field _ selections | inlineFragment _ _ selections => by
    rw [forall_scopes_iff_of_scope, scopes, List.forall_mem_cons,
      ← forall_scopesBelow_iff selections]
    simp only [scope?, Option.mem_def, Option.some.injEq, forall_eq', scopeTree, forall_nodes_node,
      Node.selectionSet.injEq]
  | fragmentSpread .. => by
    rw [forall_scopes_iff_of_scope, scopes]
    exact iff_of_true nofun nofun

theorem forall_scopesBelow_iff : ∀ xs : List Selection,
    (∀ t ∈ trees xs, ∀ node ∈ t.nodes, ∀ scope, node = .selectionSet scope → R scope) ↔
      ∀ scope ∈ scopesBelow xs, R scope
  | [] => by simp [trees, scopesBelow]
  | x :: xs => by
    rw [trees, List.forall_mem_cons, scopesBelow, List.forall_mem_append, forall_scopes_iff x,
      forall_scopesBelow_iff xs]

end

/-- The scopes that a traversal of a scope meets, itself first. -/
theorem forall_scopeTree_scopes_iff {scope : List Selection} :
    (∀ node ∈ (scopeTree scope).nodes, ∀ inner, node = .selectionSet inner → R inner) ↔
      ∀ inner ∈ scope :: scopesBelow scope, R inner := by
  rw [scopeTree, forall_nodes_node, forall_scopesBelow_iff, List.forall_mem_cons]
  simp only [Node.selectionSet.injEq, forall_eq']

end Selection

theorem Definition.forall_scopes_iff {d : Definition} :
    (∀ node ∈ d.tree.nodes, ∀ scope, node = .selectionSet scope → R scope) ↔
      ∀ scope ∈ d.scopes, R scope := by
  cases d with
  | schema d | type d | extension d | directive d =>
    exact iff_of_true
      (fun node h => Node.forall_scope_of_not_selected (d.forall_nodes_unselected node h)) nofun
  | operation d =>
    rw [Definition.tree, OperationDefinition.forall_nodes, and_iff_right nofun,
      and_iff_right fun v _ node h => Node.forall_scope_of_isInner (v.forall_nodes_inner node h),
      and_iff_right fun x _ node h => Node.forall_scope_of_isInner (x.forall_nodes_inner node h)]
    exact Selection.forall_scopeTree_scopes_iff
  | fragment d =>
    rw [Definition.tree, FragmentDefinition.forall_nodes, and_iff_right nofun, and_iff_right nofun,
      and_iff_right fun x _ node h => Node.forall_scope_of_isInner (x.forall_nodes_inner node h)]
    exact Selection.forall_scopeTree_scopes_iff

/-- The scopes that a traversal of the document meets. -/
theorem Document.forall_scopes_iff {document : Document} :
    (∀ scope, .selectionSet scope ∈ document.nodes → R scope) ↔
      ∀ scope ∈ document.scopes, R scope := by
  rw [Node.forall_mem_iff, Document.forall_nodes, and_iff_right nofun, scopes,
    List.forall_mem_flatMap]
  simp only [Definition.forall_scopes_iff]

end Scopes

end SchemaReshape
