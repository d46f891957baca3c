import SchemaReshape.Proofs.Schema.QueryFields
import SchemaReshape.Proofs.Schema.WellFormed

/-!
# Supported documents

The checks of `Document.supportedSchema` walk the tree of a document. Here is what they ask for,
said of the definitions: `Definition.IsSupported` for the kinds of nodes and the names of types, and
agreement of field names with types for the fields of the query type.
-/

namespace SchemaReshape

open Check SyntaxTree

namespace Value

mutual

/-- Neither a variable nor an object, at any depth of lists. -/
def isPlain : Value → Bool
  | list values => arePlain values
  | var _ | object _ => false
  | int _ | float _ | string _ | boolean _ | null | enum _ => true

def arePlain : List Value → Bool
  | [] => true
  | v :: vs => v.isPlain && arePlain vs

end

end Value

def Directive.IsPlain (d : Directive) : Prop := ∀ a ∈ d.arguments, a.value.isPlain = true

def InputValueDefinition.IsPlain (d : InputValueDefinition) : Prop :=
  (∀ v ∈ d.default, v.isPlain = true) ∧ ∀ x ∈ d.directives, x.IsPlain

def FieldDefinition.IsPlain (d : FieldDefinition) : Prop :=
  (∀ a ∈ d.arguments, a.IsPlain) ∧ ∀ x ∈ d.directives, x.IsPlain

/-- A type with a usable name that is no input object, all values in it plain. -/
structure TypeDefinition.IsSupported (d : TypeDefinition) : Prop where
  name : d.name.isTypeName = true
  kind : d.kind ≠ .inputObjectTypeDefinition
  directives : ∀ x ∈ d.directives, x.IsPlain
  fields : ∀ field ∈ d.fields, field.IsPlain
  enumValues : ∀ v ∈ d.enumValues, ∀ x ∈ v.directives, x.IsPlain

theorem TypeDefinition.IsSupported.inputFields_eq_nil {d : TypeDefinition} (h : d.IsSupported) :
    d.inputFields = [] := by
  have hkind := h.kind
  unfold TypeDefinition.kind at hkind
  unfold TypeDefinition.inputFields
  cases hbody : d.body with
  | inputObject fields => exact absurd (by rw [hbody]) hkind
  | _ => rfl

/-- Schema, type and directive definitions are supported; extensions and executable definitions are
not. -/
def Definition.IsSupported : Definition → Prop
  | schema d => ∀ x ∈ d.directives, x.IsPlain
  | type d => d.IsSupported
  | directive d => ∀ a ∈ d.arguments, a.IsPlain
  | extension _ | operation _ | fragment _ => False

namespace Node

def IsSupported (node : Node) : Prop := node.checkSupported = .ok ()

theorem isSupported_typeRef (t : TypeRef) : (typeRef t).IsSupported := by
  cases t <;> rfl

theorem isSupported_typeDefinition {d : TypeDefinition} :
    (typeDefinition d).IsSupported ↔
      d.name.isTypeName = true ∧ d.kind ≠ .inputObjectTypeDefinition := by
  obtain ⟨description, name, directives, body⟩ := d
  cases body <;>
    simp [IsSupported, checkSupported, kind, TypeDefinition.kind, name?, NodeKind.isDisallowed,
      NodeKind.isExecutable, NodeKind.needsTypeName]

end Node

theorem TypeRef.forall_nodes_supported : ∀ t : TypeRef, ∀ node ∈ t.tree.nodes, node.IsSupported
  | named name => forall_nodes_leaf.2 (Node.isSupported_typeRef (.named name))
  | list inner => forall_nodes_node.2 ⟨Node.isSupported_typeRef (.list inner), by
      simpa using inner.forall_nodes_supported⟩
  | nonNull inner => forall_nodes_node.2 ⟨Node.isSupported_typeRef (.nonNull inner), by
      simpa using inner.forall_nodes_supported⟩

namespace Value

mutual

theorem forall_nodes_supported_iff :
    ∀ v : Value, (∀ node ∈ v.tree.nodes, node.IsSupported) ↔ v.isPlain = true
  | int _ | float _ | string _ | boolean _ | null | enum _ => by
    rw [tree, forall_nodes_leaf]
    exact iff_of_true rfl rfl
  | var _ => by
    rw [tree, forall_nodes_leaf]
    exact iff_of_false nofun nofun
  | object fields => by
    rw [tree, forall_nodes_node]
    exact iff_of_false (fun h => nomatch h.1) nofun
  | list values => by
    rw [tree, forall_nodes_node, isPlain, ← forall_trees_supported_iff values]
    exact and_iff_right rfl

theorem forall_trees_supported_iff : ∀ vs : List Value,
    (∀ t ∈ trees vs, ∀ node ∈ t.nodes, node.IsSupported) ↔ arePlain vs = true
  | [] => by simp [trees, arePlain]
  | v :: vs => by
    rw [trees, List.forall_mem_cons, arePlain, Bool.and_eq_true, forall_nodes_supported_iff v,
      forall_trees_supported_iff vs]

end

end Value

theorem Directive.forall_nodes_supported_iff {d : Directive} :
    (∀ node ∈ d.tree.nodes, node.IsSupported) ↔ d.IsPlain := by
  rw [forall_nodes, IsPlain]
  simp only [Argument.forall_nodes, Value.forall_nodes_supported_iff]
  exact ⟨fun h a ha => (h.2 a ha).2, fun h => ⟨rfl, fun a ha => ⟨rfl, h a ha⟩⟩⟩

theorem InputValueDefinition.forall_nodes_supported_iff {d : InputValueDefinition} :
    (∀ node ∈ d.tree.nodes, node.IsSupported) ↔ d.IsPlain := by
  rw [forall_nodes, IsPlain]
  simp only [Directive.forall_nodes_supported_iff, Value.forall_nodes_supported_iff]
  exact ⟨fun h => h.2.2, fun h => ⟨rfl, d.type.forall_nodes_supported, h⟩⟩

theorem FieldDefinition.forall_nodes_supported_iff {d : FieldDefinition} :
    (∀ node ∈ d.tree.nodes, node.IsSupported) ↔ d.IsPlain := by
  rw [forall_nodes, IsPlain]
  simp only [Directive.forall_nodes_supported_iff, InputValueDefinition.forall_nodes_supported_iff]
  exact ⟨fun h => ⟨h.2.1, h.2.2.2⟩, fun h => ⟨rfl, h.1, d.type.forall_nodes_supported, h.2⟩⟩

theorem TypeDefinition.forall_nodes_supported_iff {d : TypeDefinition} :
    (∀ node ∈ d.tree.nodes, node.IsSupported) ↔ d.IsSupported := by
  rw [forall_nodes, forall_children]
  simp only [Node.isSupported_typeDefinition, Directive.forall_nodes_supported_iff,
    FieldDefinition.forall_nodes_supported_iff, EnumValueDefinition.forall_nodes,
    InputValueDefinition.forall_nodes_supported_iff]
  constructor
  · rintro ⟨⟨hname, hkind⟩, -, hdirectives, hfields, -, hvalues, -⟩
    exact ⟨hname, hkind, hdirectives, hfields, fun v hv => (hvalues v hv).2⟩
  · intro h
    refine ⟨⟨h.name, h.kind⟩, fun n _ => Node.isSupported_typeRef _, h.directives, h.fields,
      fun n _ => Node.isSupported_typeRef _, fun v hv => ⟨rfl, h.enumValues v hv⟩, ?_⟩
    simp [h.inputFields_eq_nil]

theorem Definition.forall_nodes_supported_iff {d : Definition} :
    (∀ node ∈ d.tree.nodes, node.IsSupported) ↔ d.IsSupported := by
  cases d with
  | schema d =>
    rw [tree, SchemaDefinition.forall_nodes]
    simp only [Directive.forall_nodes_supported_iff]
    exact ⟨fun h => h.2.1, fun h => ⟨rfl, h, fun n _ => Node.isSupported_typeRef _⟩⟩
  | type d => exact TypeDefinition.forall_nodes_supported_iff
  | directive d =>
    rw [tree, DirectiveDefinition.forall_nodes]
    simp only [InputValueDefinition.forall_nodes_supported_iff]
    exact ⟨fun h => h.2, fun h => ⟨rfl, h⟩⟩
  | extension d =>
    rw [tree, Extension.tree.eq_def, forall_nodes_node]
    refine iff_of_false ?_ id
    rintro ⟨hnode, -⟩
    cases hnode
  | operation d =>
    rw [tree, OperationDefinition.tree, forall_nodes_node]
    refine iff_of_false ?_ id
    rintro ⟨hnode, -⟩
    cases hnode
  | fragment d =>
    rw [tree, FragmentDefinition.tree, forall_nodes_node]
    refine iff_of_false ?_ id
    rintro ⟨hnode, -⟩
    cases hnode

/-- The nodes of a document are supported if its definitions are. -/
theorem Document.checkNodes_eq_ok_iff {document : Document} :
    document.checkNodes = .ok () ↔ ∀ d ∈ document.definitions, d.IsSupported := by
  rw [checkNodes, visit, visit_onEnter_eq_ok_iff]
  change (∀ node ∈ document.nodes, node.IsSupported) ↔ _
  rw [Document.forall_nodes]
  simp only [Definition.forall_nodes_supported_iff]
  exact and_iff_right rfl

/-- What the document has to be for its schema to be supported: it builds the schema, which has no
further roots, and its definitions are supported and their fields agree. -/
structure Document.Supports (document : Document) (s : Schema) : Prop where
  types : s.types = document.types
  directives : s.directives = document.directives
  roots : document.roots = s.roots
  mutationType : s.mutationType? = none
  subscriptionType : s.subscriptionType? = none
  wellFormed : s.WellFormed
  supported : ∀ d ∈ document.definitions, d.IsSupported
  fieldsAgree : ∀ d ∈ document.types, d.FieldsAgree s.queryType

namespace Document.Supports

variable {document : Document} {s : Schema} (hs : document.Supports s)

include hs

theorem roots_eq : document.roots = ⟨some s.queryType, none, none⟩ := by
  rw [hs.roots, Schema.roots, hs.mutationType, hs.subscriptionType]

theorem roots_eq_of_mem_schemas (hschemas : document.schemas.length ≤ 1) {d : SchemaDefinition}
    (hd : d ∈ document.schemas) : d.roots = ⟨some s.queryType, none, none⟩ := by
  obtain ⟨d', hd'⟩ :=
    List.length_eq_one_iff.1 (Nat.le_antisymm hschemas (List.length_pos_of_mem hd))
  obtain rfl : d = d' := by rwa [hd', List.mem_singleton] at hd
  have hroots := hs.roots_eq
  rwa [Document.roots, hd'] at hroots

theorem types_supported : ∀ d ∈ s.types, d.IsSupported := by
  intro d hd
  rw [hs.types, Document.mem_types] at hd
  exact hs.supported _ hd

theorem name_eq_baseName {d : TypeDefinition} (hd : d ∈ s.types) (hquery : d.name = s.queryType)
    {field : FieldDefinition} (hfield : field ∈ d.fields) : field.name = field.type.baseName :=
  hs.fieldsAgree d (hs.types ▸ hd) (hs.wellFormed.isObject_of_queryType hd hquery) hquery field
    hfield

theorem isDefined_name {d : TypeDefinition} (hd : d ∈ s.types) (hquery : d.name = s.queryType)
    {field : FieldDefinition} (hfield : field ∈ d.fields) : s.isDefined field.name = true := by
  rw [hs.name_eq_baseName hd hquery hfield]
  exact (hs.wellFormed.types_resolve d hd).fields field hfield _ List.mem_cons_self

end Document.Supports

theorem Document.supportedSchema_eq_ok_iff {document : Document} {s : Schema} :
    document.supportedSchema = .ok s ↔ document.Supports s := by
  have hsteps : document.supportedSchema = .ok s ↔ Schema.build document = .ok s ∧
      s.mutationType? = none ∧ s.subscriptionType? = none ∧ document.checkNodes = .ok () ∧
      document.checkQueryFields s.queryType = .ok () := by
    simp only [supportedSchema, bind_eq_ok_iff, mapError_eq_ok_iff, throw_bind_eq,
      ite_throw_else_eq_ok_iff, Option.not_isSome_iff_eq_none, pure_eq_ok_iff]
    constructor
    · rintro ⟨t, hbuild, hmutation, hsubscription, ⟨⟩, hnodes, ⟨⟩, hfields, rfl⟩
      exact ⟨hbuild, hmutation, hsubscription, hnodes, hfields⟩
    · rintro ⟨hbuild, hmutation, hsubscription, hnodes, hfields⟩
      exact ⟨s, hbuild, hmutation, hsubscription, (), hnodes, (), hfields, rfl⟩
  have hagree (h : ∀ d ∈ document.definitions, d.IsSupported) :
      (∀ d ∈ document.definitions, ∀ t ∈ d.typesWithin, t.FieldsAgree s.queryType) ↔
        ∀ t ∈ document.types, t.FieldsAgree s.queryType := by
    simp only [mem_types]
    constructor
    · intro hfields t ht
      exact hfields _ ht t (List.mem_singleton_self t)
    · intro hfields d hd t ht
      cases d with
      | type t' =>
        obtain rfl := List.mem_singleton.1 ht
        exact hfields t hd
      | extension e => exact (h _ hd).elim
      | _ => exact absurd ht List.not_mem_nil
  rw [hsteps, Schema.build_eq_ok_iff, checkNodes_eq_ok_iff, checkQueryFields_eq_ok_iff]
  constructor
  · rintro ⟨⟨htypes, hdirectives, hroots, hwell⟩, hmutation, hsubscription, hsupported, hfields⟩
    exact ⟨htypes, hdirectives, hroots, hmutation, hsubscription, hwell, hsupported,
      (hagree hsupported).1 hfields⟩
  · intro h
    exact ⟨⟨h.types, h.directives, h.roots, h.wellFormed⟩, h.mutationType, h.subscriptionType,
      h.supported, (hagree h.supported).2 h.fieldsAgree⟩

namespace Sample

def field (name : Name) (type : TypeRef) : FieldDefinition := ⟨none, name, [], type, []⟩

/-- A directive and types of all kinds that a supported document can define but scalars. -/
def pets : Document := ⟨[
  .directive ⟨none, "output", [⟨none, "name", .nonNull (.named "String"), none, []⟩], false, []⟩,
  .type ⟨none, "Query", [], .object [] [field "Person" (.list (.named "Person")),
    field "Pet" (.named "Pet"), field "Cat" (.named "Cat")]⟩,
  .type ⟨none, "Named", [], .interface [] [field "name" (.named "String")]⟩,
  .type ⟨none, "Person", [], .object ["Named"] [field "name" (.named "String"),
    field "cat" (.named "Cat"),
    ⟨none, "pet", [⟨none, "kind", .nonNull (.named "Kind"), none, []⟩], .named "Pet", []⟩]⟩,
  .type ⟨none, "Dog", [], .object ["Named"] [field "name" (.named "String"),
    field "kind" (.nonNull (.named "Kind"))]⟩,
  .type ⟨none, "Cat", [], .object ["Named"] [field "name" (.named "String")]⟩,
  .type ⟨none, "Kind", [], .enum [⟨none, "SMALL", []⟩]⟩,
  .type ⟨none, "Pet", [], .union ["Dog", "Cat"]⟩]⟩

end Sample

end SchemaReshape
