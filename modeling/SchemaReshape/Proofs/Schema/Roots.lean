import SchemaReshape.Proofs.Schema.Supported

/-!
# Roots of a supported document

A supported document has the query type as its only root, whether its first schema definition names
it or it is found by its name. Of the schema definitions only the first one is read, so that the
others can name other roots (`Document.roots_of_supportedSchema`).
-/

namespace SchemaReshape

theorem Definition.forall_schemaDefinition_iff {x : Definition} (hx : x.IsSupported)
    {P : SchemaDefinition → Prop} :
    (∀ node ∈ x.tree.nodes, ∀ d, node = .schemaDefinition d → P d) ↔
      ∀ d, x = .schema d → P d := by
  have hpart : ∀ node : Node, node.isTypePart = true → ∀ d, node = .schemaDefinition d → P d := by
    rintro _ hnode d rfl
    cases hnode
  have hinner : ∀ node : Node, node.isInner = true → ∀ d, node = .schemaDefinition d → P d :=
    fun node hnode => hpart node (Node.isTypePart_of_isInner hnode)
  cases x with
  | schema e =>
    rw [tree, SchemaDefinition.forall_nodes]
    constructor
    · rintro ⟨hroot, -⟩ _ ⟨⟩
      exact hroot e rfl
    · intro h
      refine ⟨?_, fun x _ node hnode => hinner node (x.forall_nodes_inner node hnode),
        fun n _ => hinner _ rfl⟩
      rintro _ ⟨⟩
      exact h e rfl
  | type t =>
    refine iff_of_true (fun node hnode => hpart node (t.forall_nodes_typePart node hnode)) ?_
    rintro _ ⟨⟩
  | directive e =>
    refine iff_of_true (DirectiveDefinition.forall_nodes.2 ⟨?_, fun a _ node hnode =>
      hinner node (a.forall_nodes_inner node hnode)⟩) ?_
    · rintro _ ⟨⟩
    · rintro _ ⟨⟩
  | extension | operation | fragment => exact hx.elim

namespace Document

variable {document : Document}

/-- The nodes that define roots are the schema definitions. -/
theorem forall_schemaDefinition_iff (h : ∀ x ∈ document.definitions, x.IsSupported)
    {P : SchemaDefinition → Prop} :
    (∀ d, .schemaDefinition d ∈ document.nodes → P d) ↔ ∀ d ∈ document.schemas, P d := by
  have hnodes : (∀ d, .schemaDefinition d ∈ document.nodes → P d) ↔
      ∀ node ∈ document.nodes, ∀ d, node = .schemaDefinition d → P d :=
    ⟨fun hall node hnode d hd => hall d (hd ▸ hnode), fun hall d hd => hall _ hd d rfl⟩
  rw [hnodes, forall_nodes, and_iff_right nofun]
  simp only [mem_schemas]
  constructor
  · intro hall d hd
    exact (Definition.forall_schemaDefinition_iff (h _ hd)).1 (hall _ hd) d rfl
  · intro hall x hx
    refine (Definition.forall_schemaDefinition_iff (h x hx)).2 ?_
    rintro d rfl
    exact hall d hx

theorem roots_of_schemas_eq_nil (hschemas : document.schemas = []) :
    document.roots = ⟨(document.type? "Query").map (·.name),
      (document.type? "Mutation").map (·.name), (document.type? "Subscription").map (·.name)⟩ := by
  unfold roots
  rw [hschemas]
  rfl

theorem map_name_type?_eq (m : Name) : (document.type? m).map (·.name) =
    if ∃ d ∈ document.types, d.name = m then some m else none := by
  cases hfind : document.type? m with
  | none =>
    unfold type? at hfind
    rw [List.find?_eq_none] at hfind
    rw [if_neg (by simpa using hfind)]
    rfl
  | some d =>
    have hname : d.name = m := by simpa using List.find?_some hfind
    rw [if_pos ⟨d, List.mem_of_find?_eq_some hfind, hname⟩, Option.map_some, hname]

variable {s : Schema} (hs : document.Supports s)

include hs

/-- Without a schema definition the roots are found by their names, of which only that of the
queries is taken. -/
theorem names_of_schemas_eq_nil (hschemas : document.schemas = []) :
    s.queryType = "Query" ∧ ∀ d ∈ s.types, d.name ≠ "Mutation" ∧ d.name ≠ "Subscription" := by
  have hroots := hs.roots_eq
  simp only [roots_of_schemas_eq_nil hschemas, map_name_type?_eq, ← hs.types, RootTypes.mk.injEq,
    ite_eq_right_iff, reduceCtorEq, imp_false, not_exists, not_and,
    Option.ite_none_right_eq_some, Option.some.injEq] at hroots
  obtain ⟨⟨-, hquery⟩, hmutation, hsubscription⟩ := hroots
  exact ⟨hquery.symm, fun d hd => ⟨hmutation d hd, hsubscription d hd⟩⟩

/-- The first schema definition names the query type and nothing else. -/
theorem forall_schemas_iff :
    (∀ d ∈ document.schemas, d.roots = ⟨some s.queryType, none, none⟩) ↔
      ∀ d ∈ document.schemas.tail, d.roots = ⟨some s.queryType, none, none⟩ := by
  have hroots := hs.roots_eq
  rw [roots] at hroots
  cases hschemas : document.schemas with
  | nil => exact iff_of_true (List.forall_mem_nil _) (List.forall_mem_nil _)
  | cons d ds =>
    rw [hschemas] at hroots
    rw [List.forall_mem_cons, List.tail_cons]
    exact and_iff_right hroots

end Document

/-- Accepted schemas are for queries only. Whichever way the query type is found, the schema has no
other root, and every schema definition of the document says so as long as those after the first
one do. -/
theorem Document.roots_of_supportedSchema {document : Document} {s : Schema}
    (h : document.supportedSchema = .ok s) :
    s.roots = ⟨some s.queryType, none, none⟩ ∧
      (document.schemas = [] →
        s.queryType = "Query" ∧ ∀ d ∈ s.types, d.name ≠ "Mutation" ∧ d.name ≠ "Subscription") ∧
      ((∀ d, .schemaDefinition d ∈ document.nodes → d.roots = ⟨some s.queryType, none, none⟩) ↔
        ∀ d ∈ document.schemas.tail, d.roots = ⟨some s.queryType, none, none⟩) := by
  have hs := supportedSchema_eq_ok_iff.1 h
  refine ⟨hs.roots.symm.trans hs.roots_eq, names_of_schemas_eq_nil hs, ?_⟩
  rw [forall_schemaDefinition_iff hs.supported, forall_schemas_iff hs]

def Sample.twoSchemas (other : RootTypes) : Document :=
  ⟨[.schema ⟨[], ⟨some "Query", none, none⟩⟩, .schema ⟨[], other⟩,
    .type ⟨none, "Query", [], .object [] [field "A" (.named "A")]⟩,
    .type ⟨none, "A", [], .object [] [field "x" (.named "Int")]⟩]⟩

theorem Sample.roots_twoSchemas : ∃ s,
    (twoSchemas ⟨some "Query", none, none⟩).supportedSchema = .ok s ∧
      s.roots = ⟨some s.queryType, none, none⟩ ∧
      ((twoSchemas ⟨some "Query", none, none⟩).schemas = [] →
        s.queryType = "Query" ∧ ∀ d ∈ s.types, d.name ≠ "Mutation" ∧ d.name ≠ "Subscription") ∧
      ((∀ d, .schemaDefinition d ∈ (twoSchemas ⟨some "Query", none, none⟩).nodes →
          d.roots = ⟨some s.queryType, none, none⟩) ↔
        ∀ d ∈ (twoSchemas ⟨some "Query", none, none⟩).schemas.tail,
          d.roots = ⟨some s.queryType, none, none⟩) :=
  ⟨_, rfl, Document.roots_of_supportedSchema rfl⟩

/-- The other schema definition can name a mutation type and another query type. -/
theorem Sample.supportedSchema_twoSchemas : ∃ s d,
    (twoSchemas ⟨some "A", some "A", none⟩).supportedSchema = .ok s ∧
      .schemaDefinition d ∈ (twoSchemas ⟨some "A", some "A", none⟩).nodes ∧
      d.roots.mutation? = some "A" ∧ d.roots.query? ≠ some s.queryType :=
  ⟨_, ⟨[], ⟨some "A", some "A", none⟩⟩, rfl, by decide, rfl, by decide⟩

end SchemaReshape
