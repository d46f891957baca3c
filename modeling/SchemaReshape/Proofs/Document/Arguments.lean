import SchemaReshape.Proofs.Document.Inner

/-!
# Where directives and arguments occur

A directive or an argument among the nodes of an operation or a fragment belongs to its head or to a
selection, at whatever depth (`OperationDefinition.forall_directives_iff`,
`OperationDefinition.forall_arguments_iff`). Both come from one statement about the selections of a
scope, for a property that all other nodes have (`Selection.forall_scopeTree_iff`).
-/

namespace SchemaReshape

open SyntaxTree

namespace Node

/-- A directive or an argument. -/
def isApplied : Node → Bool
  | directive _ | argument _ => true
  | _ => false

theorem isApplied_of_isTerm {node : Node} (h : node.isTerm = true) : node.isApplied = false := by
  cases node <;> first | rfl | exact nomatch h

theorem forall_mem_iff {α : Type} {make : α → Node} {nodes : List Node} {R : α → Prop} :
    (∀ a, make a ∈ nodes → R a) ↔ ∀ node ∈ nodes, ∀ a, node = make a → R a :=
  ⟨fun h _ hnode a ha => h a (ha ▸ hnode), fun h a ha => h _ ha a rfl⟩

theorem forall_directive_iff {nodes : List Node} {R : Directive → Prop} :
    (∀ d, .directive d ∈ nodes → R d) ↔ ∀ node ∈ nodes, ∀ d, node = .directive d → R d :=
  forall_mem_iff

theorem forall_argument_iff {nodes : List Node} {R : Argument → Prop} :
    (∀ a, .argument a ∈ nodes → R a) ↔ ∀ node ∈ nodes, ∀ a, node = .argument a → R a :=
  forall_mem_iff

theorem forall_directive_of_not_applied {R : Directive → Prop} :
    ∀ node : Node, node.isApplied = false → ∀ d, node = .directive d → R d := by
  rintro _ h d rfl
  exact nomatch h

theorem forall_argument_of_not_applied {R : Argument → Prop} :
    ∀ node : Node, node.isApplied = false → ∀ a, node = .argument a → R a := by
  rintro _ h a rfl
  exact nomatch h

end Node

section Parts

variable {R : Directive → Prop} {R' : Argument → Prop}

theorem Argument.forall_directives (a : Argument) :
    ∀ node ∈ a.tree.nodes, ∀ d, node = .directive d → R d := by
  refine Argument.forall_nodes.2 ⟨nofun, ?_⟩
  rintro node hnode d rfl
  exact nomatch a.value.forall_nodes_term _ hnode

theorem Argument.forall_arguments_iff {a : Argument} :
    (∀ node ∈ a.tree.nodes, ∀ b, node = .argument b → R' b) ↔ R' a := by
  rw [Argument.forall_nodes]
  constructor
  · intro h
    exact h.1 a rfl
  · intro h
    refine ⟨?_, ?_⟩
    · rintro _ ⟨⟩
      exact h
    · rintro node hnode b rfl
      exact nomatch a.value.forall_nodes_term _ hnode

theorem Directive.forall_directives_iff {d : Directive} :
    (∀ node ∈ d.tree.nodes, ∀ e, node = .directive e → R e) ↔ R d := by
  rw [Directive.forall_nodes]
  constructor
  · intro h
    exact h.1 d rfl
  · intro h
    refine ⟨?_, fun a _ => a.forall_directives⟩
    rintro _ ⟨⟩
    exact h

theorem Directive.forall_arguments_iff {d : Directive} :
    (∀ node ∈ d.tree.nodes, ∀ a, node = .argument a → R' a) ↔ ∀ a ∈ d.arguments, R' a := by
  rw [Directive.forall_nodes, and_iff_right nofun]
  simp only [Argument.forall_arguments_iff]

theorem VariableDefinition.forall_nodes_iff {P : Node → Prop}
    (hP : ∀ node : Node, node.isApplied = false → P node) {d : VariableDefinition} :
    (∀ node ∈ d.tree.nodes, P node) ↔ ∀ x ∈ d.directives, ∀ node ∈ x.tree.nodes, P node := by
  have hterm : ∀ node : Node, node.isTerm = true → P node :=
    fun node h => hP node (Node.isApplied_of_isTerm h)
  rw [VariableDefinition.forall_nodes, and_iff_right (hP _ rfl),
    and_iff_right fun node h => hterm node ((Value.var d.name).forall_nodes_term node h),
    and_iff_right fun node h => hterm node (d.type.forall_nodes_term node h),
    and_iff_right fun v _ node h => hterm node (v.forall_nodes_term node h)]

end Parts

namespace Selection

/-- The property holds of all nodes of the arguments and directives of the selection. -/
def Holds (P : Node → Prop) (x : Selection) : Prop :=
  (∀ a ∈ x.arguments, ∀ node ∈ a.tree.nodes, P node) ∧
    ∀ d ∈ x.directives, ∀ node ∈ d.tree.nodes, P node

theorem holds_directives_iff {R : Directive → Prop} {x : Selection} :
    x.Holds (fun node => ∀ d, node = .directive d → R d) ↔ ∀ d ∈ x.directives, R d := by
  rw [Holds, and_iff_right fun a _ => a.forall_directives]
  simp only [Directive.forall_directives_iff]

theorem holds_arguments_iff {R : Argument → Prop} {x : Selection} :
    x.Holds (fun node => ∀ a, node = .argument a → R a) ↔
      (∀ a ∈ x.arguments, R a) ∧ ∀ d ∈ x.directives, ∀ a ∈ d.arguments, R a := by
  simp only [Holds, Argument.forall_arguments_iff, Directive.forall_arguments_iff]

/-- If the node is a selection, the property holds of its arguments and directives. -/
def HoldsAt (P : Node → Prop) (node : Node) : Prop := ∀ x, node = .selection x → x.Holds P

theorem HoldsAt.of_isInner {P : Node → Prop} {node : Node} (h : node.isInner = true) :
    HoldsAt P node := by
  rintro x rfl
  exact nomatch h

variable {P : Node → Prop}

/-- Of the nodes of a selection only those within its arguments, its directives and its scope
count. -/
theorem forall_nodes_iff_of_scope {x : Selection}
    (hP : ∀ node : Node, node.isApplied = false → P node)
    (hscope : ∀ scope ∈ x.scope?, (∀ node ∈ (scopeTree scope).nodes, P node) ↔
      ∀ node ∈ (scopeTree scope).nodes, HoldsAt P node) :
    (∀ node ∈ x.tree.nodes, P node) ↔ ∀ node ∈ x.tree.nodes, HoldsAt P node := by
  rw [forall_nodes, forall_nodes, forall₂_congr hscope]
  constructor
  · rintro ⟨-, -, harguments, hdirectives, hbelow⟩
    refine ⟨?_, nofun, fun a _ node h => .of_isInner (a.forall_nodes_inner node h),
      fun d _ node h => .of_isInner (d.forall_nodes_inner node h), hbelow⟩
    rintro _ ⟨⟩
    exact ⟨harguments, hdirectives⟩
  · rintro ⟨hx, -, -, -, hbelow⟩
    obtain ⟨harguments, hdirectives⟩ := hx x rfl
    exact ⟨hP _ rfl, fun _ _ => hP _ rfl, harguments, hdirectives, hbelow⟩

mutual

theorem forall_nodes_iff_holdsAt (hP : ∀ node : Node, node.isApplied = false → P node) :
    ∀ x : Selection, (∀ node ∈ x.tree.nodes, P node) ↔ ∀ node ∈ x.tree.nodes, HoldsAt P node
  | field _ selections | inlineFragment _ _ selections => by
    refine forall_nodes_iff_of_scope hP ?_
    rintro _ ⟨⟩
    -- The scope is a node of its own, which says nothing on either side.
    rw [scopeTree, forall_nodes_node, forall_nodes_node, forall_trees_iff_holdsAt hP selections]
    exact and_congr_left' (iff_of_true (hP _ rfl) nofun)
  | fragmentSpread .. => forall_nodes_iff_of_scope hP nofun

theorem forall_trees_iff_holdsAt (hP : ∀ node : Node, node.isApplied = false → P node) :
    ∀ xs : List Selection, (∀ t ∈ trees xs, ∀ node ∈ t.nodes, P node) ↔
      ∀ t ∈ trees xs, ∀ node ∈ t.nodes, HoldsAt P node
  | [] => by simp [trees]
  | x :: xs => by
    rw [trees, List.forall_mem_cons, List.forall_mem_cons, forall_nodes_iff_holdsAt hP x,
      forall_trees_iff_holdsAt hP xs]

end

/-- What is applied in a scope is applied to a selection of it, at some depth. -/
theorem forall_scopeTree_iff (hP : ∀ node : Node, node.isApplied = false → P node)
    {scope : List Selection} :
    (∀ node ∈ (scopeTree scope).nodes, P node) ↔
      ∀ x, .selection x ∈ (scopeTree scope).nodes → x.Holds P := by
  have hat : (∀ x, .selection x ∈ (scopeTree scope).nodes → x.Holds P) ↔
      ∀ node ∈ (scopeTree scope).nodes, HoldsAt P node := Node.forall_mem_iff
  rw [hat, scopeTree, forall_nodes_node, forall_nodes_node, forall_trees_iff_holdsAt hP scope]
  exact and_congr_left' (iff_of_true (hP _ rfl) nofun)

end Selection

section Executable

variable {R : Directive → Prop} {R' : Argument → Prop}

theorem Selection.forall_directives_iff {scope : List Selection} :
    (∀ d, .directive d ∈ (scopeTree scope).nodes → R d) ↔
      ∀ x, .selection x ∈ (scopeTree scope).nodes → ∀ d ∈ x.directives, R d := by
  rw [Node.forall_mem_iff, forall_scopeTree_iff Node.forall_directive_of_not_applied]
  simp only [holds_directives_iff]

/-- The arguments of a scope are those of the selections in it and of their directives. -/
theorem Selection.forall_arguments_iff {scope : List Selection} :
    (∀ a, .argument a ∈ (scopeTree scope).nodes → R' a) ↔
      ∀ x, .selection x ∈ (scopeTree scope).nodes →
        (∀ a ∈ x.arguments, R' a) ∧ ∀ d ∈ x.directives, ∀ a ∈ d.arguments, R' a := by
  rw [Node.forall_mem_iff, forall_scopeTree_iff Node.forall_argument_of_not_applied]
  simp only [holds_arguments_iff]

theorem OperationDefinition.forall_directives_iff {d : OperationDefinition} :
    (∀ x, .directive x ∈ d.tree.nodes → R x) ↔
      (∀ v ∈ d.variableDefinitions, ∀ x ∈ v.directives, R x) ∧ (∀ x ∈ d.directives, R x) ∧
        ∀ x, .directive x ∈ (Selection.scopeTree d.selections).nodes → R x := by
  simp only [Node.forall_directive_iff]
  rw [OperationDefinition.forall_nodes, and_iff_right nofun]
  simp only [VariableDefinition.forall_nodes_iff Node.forall_directive_of_not_applied,
    Directive.forall_directives_iff]

theorem OperationDefinition.forall_arguments_iff {d : OperationDefinition} :
    (∀ a, .argument a ∈ d.tree.nodes → R' a) ↔
      (∀ v ∈ d.variableDefinitions, ∀ x ∈ v.directives, ∀ a ∈ x.arguments, R' a) ∧
        (∀ x ∈ d.directives, ∀ a ∈ x.arguments, R' a) ∧
        ∀ a, .argument a ∈ (Selection.scopeTree d.selections).nodes → R' a := by
  simp only [Node.forall_argument_iff]
  rw [OperationDefinition.forall_nodes, and_iff_right nofun]
  simp only [VariableDefinition.forall_nodes_iff Node.forall_argument_of_not_applied,
    Directive.forall_arguments_iff]

theorem FragmentDefinition.forall_directives_iff {d : FragmentDefinition} :
    (∀ x, .directive x ∈ d.tree.nodes → R x) ↔ (∀ x ∈ d.directives, R x) ∧
      ∀ x, .directive x ∈ (Selection.scopeTree d.selections).nodes → R x := by
  simp only [Node.forall_directive_iff]
  rw [FragmentDefinition.forall_nodes, and_iff_right nofun, and_iff_right nofun]
  simp only [Directive.forall_directives_iff]

theorem FragmentDefinition.forall_arguments_iff {d : FragmentDefinition} :
    (∀ a, .argument a ∈ d.tree.nodes → R' a) ↔
      (∀ x ∈ d.directives, ∀ a ∈ x.arguments, R' a) ∧
        ∀ a, .argument a ∈ (Selection.scopeTree d.selections).nodes → R' a := by
  simp only [Node.forall_argument_iff]
  rw [FragmentDefinition.forall_nodes, and_iff_right nofun, and_iff_right nofun]
  simp only [Directive.forall_arguments_iff]

end Executable

end SchemaReshape
