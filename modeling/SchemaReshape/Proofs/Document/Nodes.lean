import SchemaReshape.Proofs.Check
import SchemaReshape.Proofs.Document.References

/-!
# The nodes of each part of a document

A property of all nodes below a part of a document, said of the part itself and of all nodes of its
own parts. The lemmas are the equations of the trees in `Document.tree`, as rules for a statement
about every node.
-/

namespace SchemaReshape

open SyntaxTree

variable {P : Node → Prop}

theorem Argument.forall_nodes {a : Argument} :
    (∀ node ∈ a.tree.nodes, P node) ↔ P (.argument a) ∧ ∀ node ∈ a.value.tree.nodes, P node := by
  rw [tree, forall_nodes_node]
  simp only [List.mem_singleton, forall_eq]

theorem Directive.forall_nodes {d : Directive} :
    (∀ node ∈ d.tree.nodes, P node) ↔
      P (.directive d) ∧ ∀ a ∈ d.arguments, ∀ node ∈ a.tree.nodes, P node := by
  rw [tree, forall_nodes_node]
  simp only [List.forall_mem_map]

theorem InputValueDefinition.forall_nodes {d : InputValueDefinition} :
    (∀ node ∈ d.tree.nodes, P node) ↔
      P (.inputValueDefinition d) ∧ (∀ node ∈ d.type.tree.nodes, P node) ∧
        (∀ v ∈ d.default, ∀ node ∈ v.tree.nodes, P node) ∧
        ∀ x ∈ d.directives, ∀ node ∈ x.tree.nodes, P node := by
  rw [tree, forall_nodes_node]
  simp only [List.cons_append, List.forall_mem_cons, List.forall_mem_append, List.forall_mem_map,
    Option.mem_toList, Option.mem_def]

theorem FieldDefinition.forall_nodes {d : FieldDefinition} :
    (∀ node ∈ d.tree.nodes, P node) ↔
      P (.fieldDefinition d) ∧ (∀ a ∈ d.arguments, ∀ node ∈ a.tree.nodes, P node) ∧
        (∀ node ∈ d.type.tree.nodes, P node) ∧
        ∀ x ∈ d.directives, ∀ node ∈ x.tree.nodes, P node := by
  rw [tree, forall_nodes_node]
  simp only [List.forall_mem_append, List.forall_mem_cons, List.forall_mem_map]

theorem EnumValueDefinition.forall_nodes {d : EnumValueDefinition} :
    (∀ node ∈ d.tree.nodes, P node) ↔
      P (.enumValueDefinition d) ∧ ∀ x ∈ d.directives, ∀ node ∈ x.tree.nodes, P node := by
  rw [tree, forall_nodes_node]
  simp only [List.forall_mem_map]

theorem TypeDefinition.forall_children {d : TypeDefinition} :
    (∀ t ∈ d.tree.children, ∀ node ∈ t.nodes, P node) ↔
      (∀ n ∈ d.interfaces, P (.typeRef (.named n))) ∧
        (∀ x ∈ d.directives, ∀ node ∈ x.tree.nodes, P node) ∧
        (∀ field ∈ d.fields, ∀ node ∈ field.tree.nodes, P node) ∧
        (∀ n ∈ d.members, P (.typeRef (.named n))) ∧
        (∀ v ∈ d.enumValues, ∀ node ∈ v.tree.nodes, P node) ∧
        ∀ field ∈ d.inputFields, ∀ node ∈ field.tree.nodes, P node := by
  rw [tree, children]
  obtain ⟨description, name, directives, body⟩ := d
  cases body <;>
    simp only [interfaces, fields, members, enumValues, inputFields, List.forall_mem_append,
      List.forall_mem_map, List.not_mem_nil, false_implies, implies_true, Name.typeTree,
      forall_nodes_leaf, true_and, and_true, and_assoc]

theorem TypeDefinition.forall_nodes {d : TypeDefinition} :
    (∀ node ∈ d.tree.nodes, P node) ↔
      P (.typeDefinition d) ∧ ∀ t ∈ d.tree.children, ∀ node ∈ t.nodes, P node := by
  rw [tree, forall_nodes_node, children]

theorem SchemaDefinition.forall_nodes {d : SchemaDefinition} :
    (∀ node ∈ d.tree.nodes, P node) ↔
      P (.schemaDefinition d) ∧ (∀ x ∈ d.directives, ∀ node ∈ x.tree.nodes, P node) ∧
        ∀ n ∈ d.roots.toList, P (.typeRef (.named n)) := by
  rw [tree, forall_nodes_node]
  simp only [List.forall_mem_append, List.forall_mem_map, Name.typeTree, forall_nodes_leaf]

theorem DirectiveDefinition.forall_nodes {d : DirectiveDefinition} :
    (∀ node ∈ d.tree.nodes, P node) ↔
      P (.directiveDefinition d) ∧ ∀ a ∈ d.arguments, ∀ node ∈ a.tree.nodes, P node := by
  rw [tree, forall_nodes_node]
  simp only [List.forall_mem_map]

namespace Selection

def condition? : Selection → Option Name
  | inlineFragment condition? _ _ => condition?
  | field .. | fragmentSpread .. => none

def arguments : Selection → List Argument
  | field head _ => head.arguments
  | fragmentSpread .. | inlineFragment .. => []

def directives : Selection → List Directive
  | field head _ => head.directives
  | fragmentSpread _ directives | inlineFragment _ directives _ => directives

/-- What is selected below a field or within an inline fragment. -/
def scope? : Selection → Option (List Selection)
  | field _ selections | inlineFragment _ _ selections => some selections
  | fragmentSpread .. => none

theorem forall_nodes {x : Selection} :
    (∀ node ∈ x.tree.nodes, P node) ↔
      P (.selection x) ∧ (∀ n ∈ x.condition?, P (.typeRef (.named n))) ∧
        (∀ a ∈ x.arguments, ∀ node ∈ a.tree.nodes, P node) ∧
        (∀ d ∈ x.directives, ∀ node ∈ d.tree.nodes, P node) ∧
        ∀ scope ∈ x.scope?, ∀ node ∈ (scopeTree scope).nodes, P node := by
  cases x <;>
    simp only [tree, scopeTree, condition?, arguments, directives, scope?, forall_nodes_node,
      List.forall_mem_append, List.forall_mem_map, List.forall_mem_singleton, Option.mem_toList,
      Option.mem_def, Option.some.injEq, forall_eq', Name.typeTree, forall_nodes_leaf,
      List.not_mem_nil, reduceCtorEq, false_implies, implies_true, true_and, and_true, and_assoc]

end Selection

theorem VariableDefinition.forall_nodes {d : VariableDefinition} :
    (∀ node ∈ d.tree.nodes, P node) ↔
      P (.variableDefinition d) ∧ (∀ node ∈ (Value.var d.name).tree.nodes, P node) ∧
        (∀ node ∈ d.type.tree.nodes, P node) ∧
        (∀ v ∈ d.default, ∀ node ∈ v.tree.nodes, P node) ∧
        ∀ x ∈ d.directives, ∀ node ∈ x.tree.nodes, P node := by
  rw [tree, forall_nodes_node]
  simp only [List.cons_append, List.forall_mem_cons, List.forall_mem_append, List.forall_mem_map,
    Option.mem_toList, Option.mem_def]

theorem OperationDefinition.forall_nodes {d : OperationDefinition} :
    (∀ node ∈ d.tree.nodes, P node) ↔
      P (.operationDefinition d) ∧
        (∀ v ∈ d.variableDefinitions, ∀ node ∈ v.tree.nodes, P node) ∧
        (∀ x ∈ d.directives, ∀ node ∈ x.tree.nodes, P node) ∧
        ∀ node ∈ (Selection.scopeTree d.selections).nodes, P node := by
  rw [tree, forall_nodes_node]
  simp only [List.forall_mem_append, List.forall_mem_map, List.forall_mem_singleton, and_assoc]

theorem FragmentDefinition.forall_nodes {d : FragmentDefinition} :
    (∀ node ∈ d.tree.nodes, P node) ↔
      P (.fragmentDefinition d) ∧ P (.typeRef (.named d.condition)) ∧
        (∀ x ∈ d.directives, ∀ node ∈ x.tree.nodes, P node) ∧
        ∀ node ∈ (Selection.scopeTree d.selections).nodes, P node := by
  rw [tree, forall_nodes_node, List.cons_append, List.forall_mem_cons, Name.typeTree,
    forall_nodes_leaf]
  simp only [List.forall_mem_append, List.forall_mem_map, List.forall_mem_singleton]

theorem Document.forall_nodes {d : Document} :
    (∀ node ∈ d.nodes, P node) ↔
      P (.document d) ∧ ∀ x ∈ d.definitions, ∀ node ∈ x.tree.nodes, P node := by
  rw [nodes, tree, forall_nodes_node]
  simp only [List.forall_mem_map]

end SchemaReshape
