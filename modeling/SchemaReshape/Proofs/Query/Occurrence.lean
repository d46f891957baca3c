import SchemaReshape.Proofs.Document.Inner
import SchemaReshape.Schema.Basic

/-!
# Occurrences of selections

A selection occurs in a scope, at some depth, on a type that the schema determines: below a field
it is the type of the field, within an inline fragment the type that the fragment names or else the
type around it. `Schema.Occurs` is total in the type, so that every selection that a traversal
of the scope meets has an occurrence (`Schema.exists_occurs`).
-/

namespace SchemaReshape

open SyntaxTree

theorem SyntaxTree.mem_nodes_of_mem_children {t child : SyntaxTree} (hchild : child ∈ t.children)
    {node : Node} (h : node ∈ child.nodes) : node ∈ t.nodes := by
  obtain ⟨root, children⟩ := t
  exact mem_nodes_node.2 (.inr ⟨child, hchild, h⟩)

namespace Document

variable {query : Document} {node : Node}

theorem mem_nodes_of_operation {d : OperationDefinition} (hd : d ∈ query.operations)
    (h : node ∈ (Selection.scopeTree d.selections).nodes) : node ∈ query.nodes := by
  have htree : node ∈ d.tree.nodes :=
    mem_nodes_of_mem_children (List.mem_append_right _ (List.mem_singleton_self _)) h
  have hchild : (Definition.operation d).tree ∈ query.tree.children :=
    List.mem_map_of_mem (mem_operations.1 hd)
  exact mem_nodes_of_mem_children hchild htree

theorem mem_nodes_of_fragment {d : FragmentDefinition} (hd : d ∈ query.fragments)
    (h : node ∈ (Selection.scopeTree d.selections).nodes) : node ∈ query.nodes := by
  have htree : node ∈ d.tree.nodes :=
    mem_nodes_of_mem_children (List.mem_append_right _ (List.mem_singleton_self _)) h
  have hchild : (Definition.fragment d).tree ∈ query.tree.children :=
    List.mem_map_of_mem (mem_fragments.1 hd)
  exact mem_nodes_of_mem_children hchild htree

end Document

namespace Selection

theorem trees_eq_map (xs : List Selection) : trees xs = xs.map tree := by
  induction xs with
  | nil => rfl
  | cons x xs ih => rw [trees, ih, List.map_cons]

variable {scope selections : List Selection} {node : Node}

theorem mem_scopeTree_of_mem {x : Selection} (hx : x ∈ scope)
    (hchild : scopeTree selections ∈ x.tree.children) (h : node ∈ (scopeTree selections).nodes) :
    node ∈ (scopeTree scope).nodes := by
  have htree : x.tree ∈ trees scope := by
    rw [trees_eq_map]
    exact List.mem_map_of_mem hx
  exact mem_nodes_node.2 (.inr ⟨x.tree, htree, mem_nodes_of_mem_children hchild h⟩)

theorem mem_scopeTree_of_field {head : FieldHead} (hx : .field head selections ∈ scope)
    (h : node ∈ (scopeTree selections).nodes) : node ∈ (scopeTree scope).nodes := by
  refine mem_scopeTree_of_mem hx ?_ h
  rw [tree, children]
  exact List.mem_append_right _ (List.mem_singleton_self _)

theorem mem_scopeTree_of_inlineFragment {condition? : Option Name} {directives : List Directive}
    (hx : .inlineFragment condition? directives selections ∈ scope)
    (h : node ∈ (scopeTree selections).nodes) : node ∈ (scopeTree scope).nodes := by
  refine mem_scopeTree_of_mem hx ?_ h
  rw [tree, children]
  exact List.mem_append_right _ (List.mem_singleton_self _)

theorem mem_scopeSpreads_iff {fragment : Name} :
    fragment ∈ scopeSpreads scope ↔ ∃ x ∈ scope, fragment ∈ x.spreads := by
  induction scope with
  | nil => simp [scopeSpreads]
  | cons x scope ih => simp [scopeSpreads, ih]

end Selection

namespace Schema

/-- The base of the type that a field has on a type. -/
def fieldBase? (parent? : Option TypeDefinition) (field : Name) : Option Name :=
  (parent?.bind (·.field? field)).map (·.type.baseName)

variable (s : Schema)

/-- The type that the selections below a field are made on. -/
def typeBelow? (parent? : Option TypeDefinition) (field : Name) : Option TypeDefinition :=
  (fieldBase? parent? field).bind s.type?

/-- The type that the selections within an inline fragment are made on. -/
def typeWithin? (parent? : Option TypeDefinition) : Option Name → Option TypeDefinition
  | none => parent?
  | some name => s.type? name

/-- In a scope on a type a selection occurs in a scope on another type. -/
inductive Occurs :
    Option TypeDefinition → List Selection → Option TypeDefinition → Selection → Prop where
  | here {parent? : Option TypeDefinition} {scope : List Selection} {x : Selection}
      (h : x ∈ scope) : Occurs parent? scope parent? x
  | belowField {parent? owner? : Option TypeDefinition} {scope selections : List Selection}
      {head : FieldHead} {x : Selection} (h : .field head selections ∈ scope)
      (hx : Occurs (s.typeBelow? parent? head.name) selections owner? x) :
      Occurs parent? scope owner? x
  | withinFragment {parent? owner? : Option TypeDefinition} {scope selections : List Selection}
      {condition? : Option Name} {directives : List Directive} {x : Selection}
      (h : .inlineFragment condition? directives selections ∈ scope)
      (hx : Occurs (s.typeWithin? parent? condition?) selections owner? x) :
      Occurs parent? scope owner? x

variable {s}

theorem fieldBase?_of_field? {parent : TypeDefinition} {field : Name}
    {definition : FieldDefinition} (h : parent.field? field = some definition) :
    fieldBase? (some parent) field = some definition.type.baseName := by
  rw [fieldBase?, Option.bind_some, h, Option.map_some]

theorem typeBelow?_of_field? {parent : TypeDefinition} {field : Name}
    {definition : FieldDefinition} (h : parent.field? field = some definition) :
    s.typeBelow? (some parent) field = s.type? definition.type.baseName := by
  rw [typeBelow?, fieldBase?_of_field? h, Option.bind_some]

theorem not_occurs_nil {parent? owner? : Option TypeDefinition} {x : Selection} :
    ¬ s.Occurs parent? [] owner? x := by
  rintro (h | ⟨h, -⟩ | ⟨h, -⟩) <;> exact List.not_mem_nil h

def Covers (s : Schema) (parent? : Option TypeDefinition) (scope : List Selection)
    (node : Node) : Prop :=
  ∀ x, node = .selection x → ∃ owner?, s.Occurs parent? scope owner? x

namespace Covers

variable {parent? : Option TypeDefinition} {scope : List Selection}

theorem of_isInner {node : Node} (h : node.isInner = true) : s.Covers parent? scope node := by
  rintro x rfl
  exact nomatch h

theorem of_mem {x : Selection} (h : x ∈ scope) : s.Covers parent? scope (.selection x) := by
  rintro y ⟨⟩
  exact ⟨parent?, .here h⟩

theorem belowField {node : Node} {head : FieldHead} {selections : List Selection}
    (h : .field head selections ∈ scope)
    (hnode : s.Covers (s.typeBelow? parent? head.name) selections node) :
    s.Covers parent? scope node := by
  intro x hx
  obtain ⟨owner?, hoccurs⟩ := hnode x hx
  exact ⟨owner?, .belowField h hoccurs⟩

theorem withinFragment {node : Node} {condition? : Option Name} {directives : List Directive}
    {selections : List Selection} (h : .inlineFragment condition? directives selections ∈ scope)
    (hnode : s.Covers (s.typeWithin? parent? condition?) selections node) :
    s.Covers parent? scope node := by
  intro x hx
  obtain ⟨owner?, hoccurs⟩ := hnode x hx
  exact ⟨owner?, .withinFragment h hoccurs⟩

end Covers

mutual

theorem forall_nodes_covers (parent? : Option TypeDefinition) (scope : List Selection) :
    ∀ x : Selection, x ∈ scope → ∀ node ∈ x.tree.nodes, s.Covers parent? scope node
  | .field head selections, hx => by
    refine Selection.forall_nodes.2 ⟨.of_mem hx, nofun,
      fun a _ node h => .of_isInner (a.forall_nodes_inner node h),
      fun d _ node h => .of_isInner (d.forall_nodes_inner node h), ?_⟩
    rintro _ ⟨⟩
    refine forall_nodes_node.2 ⟨nofun, fun t ht node h => ?_⟩
    exact .belowField hx (forall_trees_covers _ _ selections (List.Subset.refl _) t ht node h)
  | .fragmentSpread name directives, hx =>
    Selection.forall_nodes.2 ⟨.of_mem hx, nofun, nofun,
      fun d _ node h => .of_isInner (d.forall_nodes_inner node h), nofun⟩
  | .inlineFragment condition? directives selections, hx => by
    refine Selection.forall_nodes.2 ⟨.of_mem hx, fun _ _ => nofun, nofun,
      fun d _ node h => .of_isInner (d.forall_nodes_inner node h), ?_⟩
    rintro _ ⟨⟩
    refine forall_nodes_node.2 ⟨nofun, fun t ht node h => ?_⟩
    exact .withinFragment hx (forall_trees_covers _ _ selections (List.Subset.refl _) t ht node h)

theorem forall_trees_covers (parent? : Option TypeDefinition) (scope : List Selection) :
    ∀ xs : List Selection, xs ⊆ scope →
      ∀ t ∈ Selection.trees xs, ∀ node ∈ t.nodes, s.Covers parent? scope node
  | [], _ => nofun
  | x :: xs, hxs => by
    obtain ⟨hx, hxs⟩ := List.cons_subset.1 hxs
    rw [Selection.trees, List.forall_mem_cons]
    exact ⟨forall_nodes_covers parent? scope x hx, forall_trees_covers parent? scope xs hxs⟩

end

/-- A selection that a traversal of the scope meets occurs in it. -/
theorem exists_occurs (parent? : Option TypeDefinition) {scope : List Selection} {x : Selection}
    (h : .selection x ∈ (Selection.scopeTree scope).nodes) :
    ∃ owner?, s.Occurs parent? scope owner? x := by
  have hcovers : ∀ node ∈ (Selection.scopeTree scope).nodes, s.Covers parent? scope node :=
    forall_nodes_node.2 ⟨nofun, forall_trees_covers parent? scope scope (List.Subset.refl _)⟩
  exact hcovers _ h x rfl

theorem exists_scope_of_occurs {parent? owner? : Option TypeDefinition} {scope : List Selection}
    {x : Selection} (h : s.Occurs parent? scope owner? x) :
    ∃ inner, x ∈ inner ∧ .selectionSet inner ∈ (Selection.scopeTree scope).nodes := by
  induction h with
  | here h => exact ⟨_, h, mem_nodes_node.2 (.inl rfl)⟩
  | belowField h _ ih =>
    obtain ⟨inner, hx, hinner⟩ := ih
    exact ⟨inner, hx, Selection.mem_scopeTree_of_field h hinner⟩
  | withinFragment h _ ih =>
    obtain ⟨inner, hx, hinner⟩ := ih
    exact ⟨inner, hx, Selection.mem_scopeTree_of_inlineFragment h hinner⟩

/-- The traversal meets every selection that occurs in the scope. -/
theorem mem_nodes_of_occurs {parent? owner? : Option TypeDefinition} {scope : List Selection}
    {x : Selection} (h : s.Occurs parent? scope owner? x) :
    .selection x ∈ (Selection.scopeTree scope).nodes := by
  induction h with
  | @here _ scope x h =>
    have htree : x.tree ∈ Selection.trees scope := by
      rw [Selection.trees_eq_map]
      exact List.mem_map_of_mem h
    have hroot : .selection x ∈ x.tree.nodes := by
      cases x <;> exact mem_nodes_node.2 (.inl rfl)
    exact mem_nodes_node.2 (.inr ⟨x.tree, htree, hroot⟩)
  | belowField h _ ih => exact Selection.mem_scopeTree_of_field h ih
  | withinFragment h _ ih => exact Selection.mem_scopeTree_of_inlineFragment h ih

theorem Occurs.mono {parent? owner? : Option TypeDefinition} {scope scope' : List Selection}
    {x : Selection} (h : s.Occurs parent? scope owner? x) (hsub : scope ⊆ scope') :
    s.Occurs parent? scope' owner? x := by
  cases h with
  | here h => exact .here (hsub h)
  | belowField h hx => exact .belowField (hsub h) hx
  | withinFragment h hx => exact .withinFragment (hsub h) hx

section Spreads

variable {fragment : Name}

mutual

theorem exists_occurs_of_mem_spreads (s : Schema) (parent? : Option TypeDefinition)
    (scope : List Selection) :
    ∀ x : Selection, x ∈ scope → fragment ∈ x.spreads →
      ∃ owner? directives, s.Occurs parent? scope owner? (.fragmentSpread fragment directives)
  | .field head selections, hx, h => by
    obtain ⟨owner?, directives, hoccurs⟩ :=
      exists_occurs_of_mem_scopeSpreads s _ selections selections (List.Subset.refl _) h
    exact ⟨owner?, directives, .belowField hx hoccurs⟩
  | .fragmentSpread name directives, hx, h => by
    obtain rfl := List.mem_singleton.1 h
    exact ⟨parent?, directives, .here hx⟩
  | .inlineFragment condition? _ selections, hx, h => by
    obtain ⟨owner?, directives, hoccurs⟩ :=
      exists_occurs_of_mem_scopeSpreads s _ selections selections (List.Subset.refl _) h
    exact ⟨owner?, directives, .withinFragment hx hoccurs⟩

theorem exists_occurs_of_mem_scopeSpreads (s : Schema) (parent? : Option TypeDefinition)
    (scope : List Selection) :
    ∀ xs : List Selection, xs ⊆ scope → fragment ∈ Selection.scopeSpreads xs →
      ∃ owner? directives, s.Occurs parent? scope owner? (.fragmentSpread fragment directives)
  | [], _, h => absurd h List.not_mem_nil
  | x :: xs, hxs, h => by
    obtain ⟨hx, hxs⟩ := List.cons_subset.1 hxs
    rw [Selection.scopeSpreads, List.mem_append] at h
    rcases h with h | h
    · exact exists_occurs_of_mem_spreads s parent? scope x hx h
    · exact exists_occurs_of_mem_scopeSpreads s parent? scope xs hxs h

end

theorem mem_scopeSpreads_of_occurs {parent? owner? : Option TypeDefinition}
    {scope : List Selection} {directives : List Directive}
    (h : s.Occurs parent? scope owner? (.fragmentSpread fragment directives)) :
    fragment ∈ Selection.scopeSpreads scope := by
  generalize hx : Selection.fragmentSpread fragment directives = x at h
  induction h with
  | here h =>
    subst hx
    exact Selection.mem_scopeSpreads_iff.2 ⟨_, h, List.mem_singleton_self _⟩
  | belowField h _ ih => exact Selection.mem_scopeSpreads_iff.2 ⟨_, h, ih hx⟩
  | withinFragment h _ ih => exact Selection.mem_scopeSpreads_iff.2 ⟨_, h, ih hx⟩

/-- The fragments spread in a scope are those whose spreads occur in it. -/
theorem mem_scopeSpreads_iff (s : Schema) (parent? : Option TypeDefinition)
    {scope : List Selection} :
    fragment ∈ Selection.scopeSpreads scope ↔
      ∃ owner? directives, s.Occurs parent? scope owner? (.fragmentSpread fragment directives) := by
  constructor
  · exact exists_occurs_of_mem_scopeSpreads s parent? scope scope (List.Subset.refl _)
  · rintro ⟨owner?, directives, hoccurs⟩
    exact mem_scopeSpreads_of_occurs hoccurs

theorem mem_scopeSpreads_iff_mem_nodes (s : Schema) {scope : List Selection} :
    fragment ∈ Selection.scopeSpreads scope ↔ ∃ directives,
      .selection (.fragmentSpread fragment directives) ∈ (Selection.scopeTree scope).nodes := by
  rw [mem_scopeSpreads_iff s none, exists_comm]
  refine exists_congr fun directives => ⟨?_, s.exists_occurs none⟩
  rintro ⟨owner?, hoccurs⟩
  exact mem_nodes_of_occurs hoccurs

end Spreads

/-- What occurs in the scope does so on a type with which it has the property. -/
def ForallOccurs (s : Schema) (P : TypeDefinition → Selection → Prop)
    (parent? : Option TypeDefinition) (scope : List Selection) : Prop :=
  ∀ owner? x, s.Occurs parent? scope owner? x → ∃ owner, owner? = some owner ∧ P owner x

namespace ForallOccurs

variable {P : TypeDefinition → Selection → Prop} {parent? : Option TypeDefinition}
  {scope selections : List Selection}

theorem mono (h : s.ForallOccurs P parent? scope) (hsub : selections ⊆ scope) :
    s.ForallOccurs P parent? selections :=
  fun owner? x hx => h owner? x (hx.mono hsub)

theorem of_mem {parent : TypeDefinition} (h : s.ForallOccurs P (some parent) scope) {x : Selection}
    (hx : x ∈ scope) : P parent x := by
  obtain ⟨_, ⟨⟩, hholds⟩ := h _ _ (.here hx)
  exact hholds

theorem belowField {head : FieldHead} (h : s.ForallOccurs P parent? scope)
    (hfield : .field head selections ∈ scope) :
    s.ForallOccurs P (s.typeBelow? parent? head.name) selections :=
  fun owner? x hx => h owner? x (.belowField hfield hx)

theorem withinFragment {condition? : Option Name} {directives : List Directive}
    (h : s.ForallOccurs P parent? scope)
    (hfragment : .inlineFragment condition? directives selections ∈ scope) :
    s.ForallOccurs P (s.typeWithin? parent? condition?) selections :=
  fun owner? x hx => h owner? x (.withinFragment hfragment hx)

end ForallOccurs

/-- What does not depend on the type is asked of all selections that the traversal meets. -/
theorem forallOccurs_and_iff {P : TypeDefinition → Selection → Prop} {R : Selection → Prop}
    {parent? : Option TypeDefinition} {scope : List Selection} :
    s.ForallOccurs (fun owner x => P owner x ∧ R x) parent? scope ↔
      s.ForallOccurs P parent? scope ∧
        ∀ x, .selection x ∈ (Selection.scopeTree scope).nodes → R x := by
  constructor
  · intro h
    constructor
    · intro owner? x hx
      obtain ⟨owner, howner, hholds, -⟩ := h owner? x hx
      exact ⟨owner, howner, hholds⟩
    · intro x hx
      obtain ⟨owner?, hoccurs⟩ := s.exists_occurs parent? hx
      obtain ⟨-, -, -, hholds⟩ := h owner? x hoccurs
      exact hholds
  · rintro ⟨hP, hR⟩ owner? x hx
    obtain ⟨owner, howner, hholds⟩ := hP owner? x hx
    exact ⟨owner, howner, hholds, hR x (mem_nodes_of_occurs hx)⟩

end Schema

end SchemaReshape
