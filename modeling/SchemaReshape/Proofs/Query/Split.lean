import SchemaReshape.Proofs.Query.Scope
import SchemaReshape.Proofs.Query.Typing
import SchemaReshape.Proofs.Schema.Supported

/-!
# What a split may rely on

The check of a query against the schema and the check of its form follow the same nodes. Together
they say more than each by itself: a fragment that is defined would have to be spread somewhere, and
no scope may spread one, so that there are no fragments at all; and whether a field selects below
itself tells whether its type is composite (`Schema.splits_of_checkSplittable`).
-/

namespace SchemaReshape

open Check SyntaxTree

namespace Schema

def NamesComposite (s : Schema) (n : Name) : Prop :=
  ∃ d, s.type? n = some d ∧ d.isComposite = true

def NamesLeaf (s : Schema) (n : Name) : Prop :=
  n.isBuiltinScalar = true ∨ ∃ d, s.type? n = some d ∧ d.isLeaf = true

/-- A field that is selected on a type selects below itself if its own type is composite. Otherwise
that type is a leaf, as is the one of the field that every composite type has. -/
structure FieldFits (s : Schema) (owner? : Option TypeDefinition) (head : FieldHead)
    (selections : List Selection) : Prop where
  vertex : selections ≠ [] →
    ∃ base, fieldBase? owner? head.name = some base ∧ s.NamesComposite base
  property : selections = [] → head.name = Name.typeName ∨
    ∃ base, fieldBase? owner? head.name = some base ∧ s.NamesLeaf base

/-- The form of a query that can be split. -/
structure Splits (s : Schema) (query : Document) : Prop where
  fragments : query.fragments = []
  spreads : ∀ node ∈ query.nodes, node.kind ≠ .fragmentSpread
  scopes : ∀ scope, .selectionSet scope ∈ query.nodes → Selection.IsSplitScope scope
  /-- Every field of the query occurs on some type. -/
  occurs : ∀ head selections, .selection (.field head selections) ∈ query.nodes →
    ∃ operation ∈ query.operations, ∃ owner?,
      s.Occurs s.queryDefinition? operation.selections owner? (.field head selections)
  fields : ∀ operation ∈ query.operations, ∀ owner? head selections,
    s.Occurs s.queryDefinition? operation.selections owner? (.field head selections) →
      s.FieldFits owner? head selections

end Schema

theorem Selection.IsSplitScope.ne_fragmentSpread {scope : List Selection} (h : IsSplitScope scope)
    {x : Selection} (hx : x ∈ scope) (name : Name) (directives : List Directive) :
    x ≠ .fragmentSpread name directives := by
  rintro rfl
  rcases h with ⟨condition?, directives', selections, rfl⟩ | ⟨hfields, -⟩
  · exact nomatch List.mem_singleton.1 hx
  · exact nomatch hfields _ hx

theorem TypeDefinition.IsSupported.isLeaf {d : TypeDefinition} (h : d.IsSupported)
    (hnot : d.isComposite = false) : d.isLeaf = true := by
  have hkind := h.kind
  unfold TypeDefinition.kind at hkind
  unfold TypeDefinition.isComposite at hnot
  unfold TypeDefinition.isLeaf
  cases hbody : d.body with
  | scalar | enum => rfl
  | object | interface | union => simp [hbody] at hnot
  | inputObject => simp [hbody] at hkind

theorem Node.exists_of_kind_eq_fragmentSpread {node : Node} (h : node.kind = .fragmentSpread) :
    ∃ name directives, node = .selection (.fragmentSpread name directives) := by
  cases node with
  | selection x =>
    cases x with
    | fragmentSpread name directives => exact ⟨name, directives, rfl⟩
    | field | inlineFragment => exact nomatch h
  | typeDefinition d =>
    obtain ⟨description, name, directives, body⟩ := d
    cases body <;> exact nomatch h
  | typeRef t => cases t <;> exact nomatch h
  | value v => cases v <;> exact nomatch h
  | _ => exact nomatch h

namespace Schema

variable {s : Schema} {query : Document} {settings : Settings}

theorem checkSplittable_eq_ok_iff :
    s.checkSplittable query settings = .ok () ↔ s.checkQuery query = .ok () ∧
      ∀ node ∈ query.nodes, node.checkSplittable settings = .ok () := by
  unfold checkSplittable Document.visit
  rw [bind_unit_eq_ok_iff, visit_onEnter_eq_ok_iff]
  rfl

/-- A valid query is one operation whose scope passes on the query type, and every fragment that it
defines is spread. -/
theorem exists_operation_of_checkQuery (h : s.checkQuery query = .ok ()) :
    ∃ operation parent, query.operations = [operation] ∧ s.queryDefinition? = some parent ∧
      (s.queryContext query operation).checkScope parent operation.selections = .ok () ∧
      ∀ fragment ∈ query.fragments,
        fragment.name ∈ (s.queryContext query operation).spreads operation := by
  obtain ⟨operation, hoperations, -, hoperation⟩ := checkQuery_eq_ok_iff.1 h
  obtain ⟨parent, hparent, -, hscope, -, hused⟩ := checkOperation_eq_ok_iff.1 hoperation
  exact ⟨operation, parent, hoperations, hparent, hscope, hused⟩

section Form

variable (hscopes : ∀ scope, .selectionSet scope ∈ query.nodes → Selection.IsSplitScope scope)

include hscopes

theorem scopeSpreads_eq_nil (s : Schema) {selections : List Selection}
    (h : ∀ node ∈ (Selection.scopeTree selections).nodes, node ∈ query.nodes) :
    Selection.scopeSpreads selections = [] := by
  rw [List.eq_nil_iff_forall_not_mem]
  intro name hname
  obtain ⟨owner?, directives, hoccurs⟩ := (mem_scopeSpreads_iff s none).1 hname
  obtain ⟨inner, hx, hinner⟩ := exists_scope_of_occurs hoccurs
  exact (hscopes inner (h _ hinner)).ne_fragmentSpread hx name directives rfl

/-- Fragments would have to be spread in a scope, but none spreads any. -/
theorem fragments_eq_nil (h : s.checkQuery query = .ok ()) : query.fragments = [] := by
  obtain ⟨operation, parent, hoperations, -, -, hused⟩ := exists_operation_of_checkQuery h
  have hoperation : operation ∈ query.operations := by
    rw [hoperations]
    exact List.mem_singleton_self _
  have hselections : Selection.scopeSpreads operation.selections = [] := by
    apply scopeSpreads_eq_nil hscopes s
    intro node hnode
    exact Document.mem_nodes_of_operation hoperation hnode
  have hdefinitions : ∀ fragment ∈ query.fragments,
      Selection.scopeSpreads fragment.selections = [] := by
    intro fragment hfragment
    apply scopeSpreads_eq_nil hscopes s
    intro node hnode
    exact Document.mem_nodes_of_fragment hfragment hnode
  have hnone : (s.queryContext query operation).spreads operation = [] := by
    unfold QueryContext.spreads
    rw [List.append_eq_nil_iff, List.flatMap_eq_nil_iff]
    exact ⟨hselections, hdefinitions⟩
  rw [List.eq_nil_iff_forall_not_mem]
  intro fragment hfragment
  have hspread := hused fragment hfragment
  rw [hnone] at hspread
  exact List.not_mem_nil hspread

end Form

theorem exists_occurs_of_mem_nodes (h : query.fragments = []) {x : Selection}
    (hx : .selection x ∈ query.nodes) :
    ∃ operation ∈ query.operations, ∃ owner?,
      s.Occurs s.queryDefinition? operation.selections owner? x := by
  rcases Document.exists_scope_of_mem_nodes hx with ⟨operation, hoperation, hx⟩ | ⟨_, hfragment, -⟩
  · exact ⟨operation, hoperation, exists_occurs _ hx⟩
  · rw [h] at hfragment
    exact absurd hfragment List.not_mem_nil

/-- Whether a field is a vertex tells the kind of its type, as a supported schema has no input
objects. -/
theorem fieldFits_of_checkSelection {c : QueryContext}
    (hkinds : ∀ d ∈ c.schema.types, d.IsSupported) {owner : TypeDefinition} {head : FieldHead}
    {selections : List Selection}
    (h : c.checkSelection owner (.field head selections) = .ok ()) :
    c.schema.FieldFits (some owner) head selections := by
  obtain ⟨-, ⟨hname, rfl⟩ | ⟨-, definition, hdefinition, -, hbelow⟩⟩ :=
    QueryContext.checkSelection_field_iff.1 h
  · exact ⟨fun hne => absurd rfl hne, fun _ => .inl hname⟩
  · have hbase : fieldBase? (some owner) head.name = some definition.type.baseName :=
      fieldBase?_of_field? hdefinition
    rcases hbelow with ⟨htype, rfl⟩ | ⟨type, htype, hne, -⟩
    · have hnames : c.schema.NamesLeaf definition.type.baseName := by
        rcases QueryContext.scopeType?_eq_none_iff.1 htype with
          ⟨-, hbuiltin⟩ | ⟨type, hfound, hnot⟩
        · exact .inl hbuiltin
        · have hsupported := hkinds type (mem_types_of_type? hfound)
          exact .inr ⟨type, hfound, hsupported.isLeaf hnot⟩
      exact ⟨fun hne => absurd rfl hne, fun _ => .inr ⟨_, hbase, hnames⟩⟩
    · have hnames : c.schema.NamesComposite definition.type.baseName :=
        ⟨type, QueryContext.scopeType?_eq_some_iff.1 htype⟩
      exact ⟨fun _ => ⟨_, hbase, hnames⟩, fun hnil => absurd hnil hne⟩

/-- A query that passes the check for a split has the form that a split relies on. -/
theorem splits_of_checkSplittable {document : Document} (hs : document.supportedSchema = .ok s)
    (h : s.checkSplittable query settings = .ok ()) : s.Splits query := by
  obtain ⟨hquery, hnodes⟩ := checkSplittable_eq_ok_iff.1 h
  have hscopes : ∀ scope, .selectionSet scope ∈ query.nodes → Selection.IsSplitScope scope := by
    intro scope hscope
    exact Selection.checkScope_eq_ok_iff.1 (hnodes _ hscope)
  have hfragments : query.fragments = [] := fragments_eq_nil hscopes hquery
  have hoccurs : ∀ x, .selection x ∈ query.nodes → ∃ operation ∈ query.operations, ∃ owner?,
      s.Occurs s.queryDefinition? operation.selections owner? x := by
    intro x hx
    exact exists_occurs_of_mem_nodes hfragments hx
  have hspreads : ∀ node ∈ query.nodes, node.kind ≠ .fragmentSpread := by
    intro node hnode hkind
    obtain ⟨name, directives, rfl⟩ := Node.exists_of_kind_eq_fragmentSpread hkind
    obtain ⟨operation, hoperation, owner?, hspread⟩ := hoccurs _ hnode
    obtain ⟨inner, hx, hinner⟩ := exists_scope_of_occurs hspread
    have hscope := hscopes inner (Document.mem_nodes_of_operation hoperation hinner)
    exact hscope.ne_fragmentSpread hx name directives rfl
  have hfields : ∀ operation ∈ query.operations, ∀ owner? head selections,
      s.Occurs s.queryDefinition? operation.selections owner? (.field head selections) →
        s.FieldFits owner? head selections := by
    intro operation hoperation owner? head selections hfield
    obtain ⟨operation', parent, hoperations, hparent, hscope, -⟩ :=
      exists_operation_of_checkQuery hquery
    rw [hoperations, List.mem_singleton] at hoperation
    subst hoperation
    obtain ⟨owner, rfl, hchecked⟩ := QueryContext.checkSelection_of_occurs
      (c := s.queryContext query operation) hfield hparent hscope
    have hkinds := (Document.supportedSchema_eq_ok_iff.1 hs).types_supported
    exact fieldFits_of_checkSelection hkinds hchecked
  exact ⟨hfragments, hspreads, hscopes, fun head selections hx => hoccurs _ hx, hfields⟩

end Schema

namespace Sample

def dogs : Document :=
  let output : Directive := ⟨"output", [⟨"name", .string "owner"⟩]⟩
  ⟨[.operation ⟨.query, none, [], [], [.field ⟨none, "Person", [], []⟩ [
    .field ⟨none, "name", [], [output]⟩ [],
    .field ⟨none, "pet", [⟨"kind", .enum "SMALL"⟩], []⟩ [.inlineFragment (some "Dog") [] [
      .field ⟨none, "__typename", [], []⟩ [], .field ⟨none, "kind", [], []⟩ []]]]]⟩]⟩

theorem splits_dogs : ∃ s, pets.supportedSchema = .ok s ∧
    s.checkSplittable dogs .standard = .ok () ∧ s.Splits dogs :=
  ⟨_, rfl, rfl, Schema.splits_of_checkSplittable (show pets.supportedSchema = .ok _ from rfl)
    (show Schema.checkSplittable _ dogs .standard = .ok () from rfl)⟩

end Sample

end SchemaReshape
