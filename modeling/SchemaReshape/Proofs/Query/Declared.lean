import SchemaReshape.Proofs.Query.Arguments

/-!
# Arguments of selected fields

Which arguments a field declares depends on the type that it is selected on. `Schema.Selects` says
of a whole document what `Schema.Occurs` says of a scope, so that every field of the document is
selected on some type (`Document.mem_nodes_iff_selects`). In a valid query a field gives only
arguments that it declares there, unless it is the field that every composite type has: that one
declares none, and its arguments are not looked at (`Schema.givesDeclared_of_checkQuery`).
-/

namespace SchemaReshape

namespace FieldHead

def declared? (head : FieldHead) (owner : TypeDefinition) : Option (List InputValueDefinition) :=
  if head.name = Name.typeName then some [] else (owner.field? head.name).map (·.arguments)

/-- The field is known on the type and gives only arguments that it declares there. -/
def GivesDeclared (head : FieldHead) (owner : TypeDefinition) : Prop :=
  ∃ declared, head.declared? owner = some declared ∧
    ∀ a ∈ head.arguments, ∃ e ∈ declared, e.name = a.name

variable {head : FieldHead} {owner : TypeDefinition}

theorem declared?_of_typeName (h : head.name = Name.typeName) : head.declared? owner = some [] :=
  if_pos h

theorem declared?_of_field? (h : head.name ≠ Name.typeName) {definition : FieldDefinition}
    (hdefinition : owner.field? head.name = some definition) :
    head.declared? owner = some definition.arguments := by
  rw [declared?, if_neg h, hdefinition, Option.map_some]

theorem givesDeclared_iff_of_typeName (h : head.name = Name.typeName) :
    head.GivesDeclared owner ↔ head.arguments = [] := by
  simp only [GivesDeclared, declared?_of_typeName h, Option.some.injEq, exists_eq_left',
    List.not_mem_nil, false_and, exists_false, List.eq_nil_iff_forall_not_mem]

end FieldHead

namespace Schema

/-- The document selects on a type: its operation does from the query type on, a fragment from the
type that it applies to. -/
inductive Selects (s : Schema) (query : Document) : Option TypeDefinition → Selection → Prop where
  | operation {operation : OperationDefinition} {owner? : Option TypeDefinition} {x : Selection}
      (hoperation : operation ∈ query.operations)
      (hx : s.Occurs s.queryDefinition? operation.selections owner? x) : Selects s query owner? x
  | fragment {fragment : FragmentDefinition} {owner? : Option TypeDefinition} {x : Selection}
      (hfragment : fragment ∈ query.fragments)
      (hx : s.Occurs (s.type? fragment.condition) fragment.selections owner? x) :
      Selects s query owner? x

end Schema

/-- The selections of a document are those that it selects on some type. -/
theorem Document.mem_nodes_iff_selects (s : Schema) {query : Document} {x : Selection} :
    .selection x ∈ query.nodes ↔ ∃ owner?, s.Selects query owner? x := by
  constructor
  · intro h
    rcases exists_scope_of_mem_nodes h with ⟨operation, hoperation, hx⟩ | ⟨fragment, hfragment, hx⟩
    · obtain ⟨owner?, hoccurs⟩ := s.exists_occurs s.queryDefinition? hx
      exact ⟨owner?, .operation hoperation hoccurs⟩
    · obtain ⟨owner?, hoccurs⟩ := s.exists_occurs (s.type? fragment.condition) hx
      exact ⟨owner?, .fragment hfragment hoccurs⟩
  · rintro ⟨owner?, hselects⟩
    cases hselects with
    | operation hoperation hx =>
      exact mem_nodes_of_operation hoperation (Schema.mem_nodes_of_occurs hx)
    | fragment hfragment hx =>
      exact mem_nodes_of_fragment hfragment (Schema.mem_nodes_of_occurs hx)

namespace QueryContext

variable {c : QueryContext} {owner : TypeDefinition}

/-- A field that passes is known on its type, and what is not looked at decides whether it gives
only arguments that it declares. -/
theorem givesDeclared_iff_of_checkSelection {head : FieldHead} {selections : List Selection}
    (h : c.checkSelection owner (.field head selections) = .ok ()) :
    head.GivesDeclared owner ↔ (head.name = Name.typeName → head.arguments = []) := by
  obtain ⟨-, ⟨hname, -⟩ | ⟨hname, definition, hdefinition, harguments, -⟩⟩ :=
    checkSelection_field_iff.1 h
  · rw [FieldHead.givesDeclared_iff_of_typeName hname, forall_prop_of_true hname]
  · obtain ⟨hunknown, hmissing, -⟩ := checkFieldArguments_eq_ok_iff.1 harguments
    have hfit : Argument.Fit definition.arguments head.arguments :=
      Argument.fit_iff.2 ⟨hunknown, hmissing⟩
    have hdeclared := FieldHead.declared?_of_field? hname hdefinition
    exact iff_of_true ⟨definition.arguments, hdeclared, hfit.declared⟩
      fun htypeName => absurd htypeName hname

end QueryContext

namespace Schema

variable {s : Schema} {query : Document}

theorem exists_checkSelection_of_selects (h : s.checkQuery query = .ok ())
    {owner? : Option TypeDefinition} {x : Selection} (hx : s.Selects query owner? x) :
    ∃ operation owner, query.operations = [operation] ∧ owner? = some owner ∧
      (s.queryContext query operation).checkSelection owner x = .ok () := by
  obtain ⟨operation, hoperations, -, hoperation⟩ := checkQuery_eq_ok_iff.1 h
  obtain ⟨parent, hparent, -, hscope, hfragments, -⟩ := checkOperation_eq_ok_iff.1 hoperation
  cases hx with
  | operation hmem hx =>
    rw [hoperations, List.mem_singleton] at hmem
    subst hmem
    obtain ⟨owner, howner, hchecked⟩ :=
      QueryContext.checkSelection_of_occurs (c := s.queryContext query _) hx hparent hscope
    exact ⟨_, owner, hoperations, howner, hchecked⟩
  | fragment hfragment hx =>
    obtain ⟨condition, hcondition, -, hscope⟩ :=
      QueryContext.checkFragment_eq_ok_iff.1 (hfragments _ hfragment)
    obtain ⟨owner, howner, hchecked⟩ :=
      QueryContext.checkSelection_of_occurs (c := s.queryContext query operation) hx
        (QueryContext.conditionType_eq_ok_iff.1 hcondition).1 hscope
    exact ⟨operation, owner, hoperations, howner, hchecked⟩

/-- Every field of a valid query is selected on a type, and on each such type it gives only
arguments that it declares there, but for the field that every composite type has, which may have
any. -/
theorem givesDeclared_of_checkQuery (h : s.checkQuery query = .ok ()) :
    (∀ x, .selection x ∈ query.nodes → ∃ owner?, s.Selects query owner? x) ∧
      ∀ owner? head selections, s.Selects query owner? (.field head selections) →
        ∃ owner, owner? = some owner ∧
          (head.GivesDeclared owner ↔ (head.name = Name.typeName → head.arguments = [])) := by
  refine ⟨fun x hx => (Document.mem_nodes_iff_selects s).1 hx, fun owner? head selections hx => ?_⟩
  obtain ⟨operation, owner, -, howner, hchecked⟩ := exists_checkSelection_of_selects h hx
  exact ⟨owner, howner, QueryContext.givesDeclared_iff_of_checkSelection hchecked⟩

end Schema

namespace Sample

theorem givesDeclared_petsOfKind : ∃ s, pets.supportedSchema = .ok s ∧
    s.checkQuery petsOfKind = .ok () ∧
    (∀ x, .selection x ∈ petsOfKind.nodes → ∃ owner?, s.Selects petsOfKind owner? x) ∧
      ∀ owner? head selections, s.Selects petsOfKind owner? (.field head selections) →
        ∃ owner, owner? = some owner ∧
          (head.GivesDeclared owner ↔ (head.name = Name.typeName → head.arguments = [])) :=
  ⟨_, rfl, rfl, Schema.givesDeclared_of_checkQuery
    (show Schema.checkQuery _ petsOfKind = .ok () from rfl)⟩

/-- The name of a person's type, asked for with an argument. -/
def undeclared : Document :=
  petQuery [] (.field ⟨none, "__typename", [⟨"a", .boolean true⟩], []⟩ [])

/-- The check passes an argument that no type declares. -/
theorem checkQuery_passes_undeclared : ∃ s, pets.supportedSchema = .ok s ∧
    s.checkQuery undeclared = .ok () ∧
    ∃ head, .selection (.field head []) ∈ undeclared.nodes ∧
      ∀ owner, ¬ head.GivesDeclared owner := by
  refine ⟨_, rfl, rfl, ⟨none, "__typename", [⟨"a", .boolean true⟩], []⟩, by decide, ?_⟩
  intro owner h
  exact List.cons_ne_nil _ _ ((FieldHead.givesDeclared_iff_of_typeName rfl).1 h)

end Sample

end SchemaReshape
