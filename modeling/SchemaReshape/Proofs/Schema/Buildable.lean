import SchemaReshape.Proofs.Schema.Roots

/-!
# Documents that make a schema

`Document.DefinesSchema` says of the definitions of a document what makes them a schema: distinct
names, roots that are object types, and references to types that the document defines or that the
language has. A document builds a schema exactly if it defines one, and the schema lists and finds
what the document does (`Schema.build_iff_definesSchema`).
-/

namespace SchemaReshape

def OperationKind.rootName : OperationKind → Name
  | query => "Query"
  | mutation => "Mutation"
  | subscription => "Subscription"

theorem RootTypes.mem_toList_iff {roots : RootTypes} {n : Name} :
    n ∈ roots.toList ↔ ∃ kind, roots.get? kind = some n := by
  rw [toList, List.mem_append, List.mem_append]
  simp only [Option.mem_toList]
  constructor
  · rintro ((h | h) | h)
    · exact ⟨.query, h⟩
    · exact ⟨.mutation, h⟩
    · exact ⟨.subscription, h⟩
  · rintro ⟨kind, h⟩
    cases kind with
    | query => exact .inl (.inl h)
    | mutation => exact .inl (.inr h)
    | subscription => exact .inr h

/-- Schemas, types and directives are defined by a schema document; an extension defines nothing,
and operations and fragments belong to queries. -/
def Definition.isOfSchema : Definition → Bool
  | schema _ | type _ | directive _ => true
  | extension _ | operation _ | fragment _ => false

namespace Document

def schemaPart (document : Document) : Document := ⟨document.definitions.filter (·.isOfSchema)⟩

variable (document : Document)

/-- A scalar of the language or a type that the document defines. -/
def Knows (n : Name) : Prop := n.isBuiltinScalar = true ∨ ∃ t ∈ document.types, t.name = n

def DefinesAs (isOfKind : TypeDefinition → Bool) (n : Name) : Prop :=
  ∃ t ∈ document.types, t.name = n ∧ isOfKind t = true

/-- The first schema definition names the root. Without any, the root is the type of the name that
goes with the kind, if that is defined. -/
def HasRoot (kind : OperationKind) (n : Name) : Prop :=
  match document.schemas with
  | first :: _ => first.roots.get? kind = some n
  | [] => n = kind.rootName ∧ ∃ t ∈ document.types, t.name = n

structure DefinesSchema : Prop where
  types_distinct : (document.types.map (·.name)).Nodup
  types_not_builtin : ∀ t ∈ document.types, t.name.isBuiltinScalar = false
  directives_distinct : (document.directives.map (·.name)).Nodup
  queryRoot : ∃ n, document.HasRoot .query n
  roots : ∀ kind n, document.HasRoot kind n → document.DefinesAs (·.isObject) n
  fields : ∀ t ∈ document.types, ∀ field ∈ t.fields, document.Knows field.type.baseName
  fieldArguments : ∀ t ∈ document.types, ∀ field ∈ t.fields, ∀ a ∈ field.arguments,
    document.Knows a.type.baseName
  inputFields : ∀ t ∈ document.types, ∀ field ∈ t.inputFields, document.Knows field.type.baseName
  directiveArguments : ∀ d ∈ document.directives, ∀ a ∈ d.arguments,
    document.Knows a.type.baseName
  interfaces : ∀ t ∈ document.types, ∀ n ∈ t.interfaces, document.DefinesAs (·.isInterface) n
  members : ∀ t ∈ document.types, ∀ n ∈ t.members, document.DefinesAs (·.isObject) n

variable {document}

theorem filterMap_schemaPart {α : Type} {kind? : Definition → Option α}
    (h : ∀ definition, definition.isOfSchema = false → kind? definition = none) :
    document.schemaPart.definitions.filterMap kind? = document.definitions.filterMap kind? := by
  rw [schemaPart, List.filterMap_filter]
  congr 1
  funext definition
  cases hdefinition : definition.isOfSchema with
  | true => rfl
  | false => exact (h definition hdefinition).symm

theorem types_schemaPart : document.schemaPart.types = document.types :=
  filterMap_schemaPart fun definition h => by cases definition <;> first | rfl | cases h

theorem directives_schemaPart : document.schemaPart.directives = document.directives :=
  filterMap_schemaPart fun definition h => by cases definition <;> first | rfl | cases h

theorem schemas_schemaPart : document.schemaPart.schemas = document.schemas :=
  filterMap_schemaPart fun definition h => by cases definition <;> first | rfl | cases h

theorem roots_schemaPart : document.schemaPart.roots = document.roots := by
  simp only [roots, type?, types_schemaPart, schemas_schemaPart]

theorem hasRoot_iff {kind : OperationKind} {n : Name} :
    document.HasRoot kind n ↔ document.roots.get? kind = some n := by
  unfold HasRoot
  cases hschemas : document.schemas with
  | nil =>
    have hget : document.roots.get? kind = (document.type? kind.rootName).map (·.name) := by
      rw [roots_of_schemas_eq_nil hschemas]
      cases kind <;> rfl
    rw [hget, map_name_type?_eq, Option.ite_none_right_eq_some, Option.some.injEq]
    constructor
    · rintro ⟨rfl, hdefined⟩
      exact ⟨hdefined, rfl⟩
    · rintro ⟨hdefined, rfl⟩
      exact ⟨rfl, hdefined⟩
  | cons first rest => simp only [roots, hschemas, List.head?_cons]

section Lookup

variable {s : Schema} (htypes : s.types = document.types)

include htypes

theorem type?_eq_of_types (n : Name) : s.type? n = document.type? n := by
  rw [Schema.type?, type?, htypes]

theorem knows_iff {n : Name} : document.Knows n ↔ s.isDefined n = true := by
  rw [Schema.isDefined_iff, htypes, Knows]

theorem definesAs_iff (hdistinct : (s.types.map (·.name)).Nodup)
    (isOfKind : TypeDefinition → Bool) (n : Name) :
    document.DefinesAs isOfKind n ↔ ∃ t, s.type? n = some t ∧ isOfKind t = true := by
  simp only [DefinesAs, Schema.type?_eq_some_iff hdistinct, htypes, and_assoc]

end Lookup

/-- The schema of a document's definitions and roots is well formed if and only if the document
defines a schema. -/
theorem wellFormed_iff_definesSchema {s : Schema} (htypes : s.types = document.types)
    (hdirectives : s.directives = document.directives) (hroots : document.roots = s.roots) :
    s.WellFormed ↔ document.DefinesSchema := by
  have hroot (n : Name) : n ∈ s.roots.toList ↔ ∃ kind, document.HasRoot kind n := by
    simp only [RootTypes.mem_toList_iff, hasRoot_iff, hroots]
  have hknows (n : Name) : document.Knows n ↔ s.isDefined n = true := knows_iff htypes
  constructor
  · intro h
    have hdefines := definesAs_iff htypes h.types_nodup
    have htype (t : TypeDefinition) (ht : t ∈ document.types) : s.Resolves t :=
      h.types_resolve t (htypes ▸ ht)
    exact {
      types_distinct := htypes ▸ h.types_nodup
      types_not_builtin := htypes ▸ h.types_not_builtin
      directives_distinct := hdirectives ▸ h.directives_nodup
      queryRoot := ⟨s.queryType, hasRoot_iff.2 (by rw [hroots]; rfl)⟩
      roots := fun kind n hn => (hdefines _ n).2 (h.roots_object n ((hroot n).2 ⟨kind, hn⟩))
      -- The type of a field comes first among its references, before those of its arguments.
      fields := fun t ht field hfield =>
        (hknows _).2 ((htype t ht).fields field hfield _ List.mem_cons_self)
      fieldArguments := fun t ht field hfield a ha => (hknows _).2
        ((htype t ht).fields field hfield _ (List.mem_cons_of_mem _ (List.mem_map_of_mem ha)))
      inputFields := fun t ht field hfield => (hknows _).2 ((htype t ht).inputFields field hfield)
      directiveArguments := fun d hd a ha =>
        (hknows _).2 (h.directives_resolve d (hdirectives ▸ hd) _ (List.mem_map_of_mem ha))
      interfaces := fun t ht n hn => (hdefines _ n).2 ((htype t ht).interfaces n hn)
      members := fun t ht n hn => (hdefines _ n).2 ((htype t ht).members n hn) }
  · intro h
    have hnodup : (s.types.map (·.name)).Nodup := htypes ▸ h.types_distinct
    have hdefines := definesAs_iff htypes hnodup
    refine ⟨hnodup, htypes ▸ h.types_not_builtin, hdirectives ▸ h.directives_distinct, ?_, ?_, ?_⟩
    · intro n hn
      obtain ⟨kind, hkind⟩ := (hroot n).1 hn
      exact (hdefines _ n).1 (h.roots kind n hkind)
    · intro t ht
      rw [htypes] at ht
      refine ⟨fun n hn => (hdefines _ n).1 (h.interfaces t ht n hn),
        fun n hn => (hdefines _ n).1 (h.members t ht n hn), fun field hfield => ?_,
        fun field hfield => (hknows _).1 (h.inputFields t ht field hfield)⟩
      refine List.forall_mem_cons.2 ⟨(hknows _).1 (h.fields t ht field hfield), ?_⟩
      exact List.forall_mem_map.2 fun a ha => (hknows _).1 (h.fieldArguments t ht field hfield a ha)
    · intro d hd
      rw [hdirectives] at hd
      exact List.forall_mem_map.2 fun a ha => (hknows _).1 (h.directiveArguments d hd a ha)

end Document

namespace Schema

variable {document : Document}

theorem exists_build_eq_ok_iff : (∃ s, build document = .ok s) ↔ document.DefinesSchema := by
  constructor
  · rintro ⟨s, hs⟩
    obtain ⟨htypes, hdirectives, hroots, hwell⟩ := build_eq_ok_iff.1 hs
    exact (Document.wellFormed_iff_definesSchema htypes hdirectives hroots).1 hwell
  · intro h
    obtain ⟨n, hn⟩ := h.queryRoot
    cases hroots : document.roots with
    | mk query? mutation? subscription? =>
      have hquery : query? = some n := by
        rw [Document.hasRoot_iff, hroots] at hn
        exact hn
      have hs : document.roots = roots ⟨document.types, document.directives, n, mutation?,
          subscription?⟩ := by
        rw [hroots, hquery]
        rfl
      exact ⟨_, build_eq_ok_iff.2 ⟨rfl, rfl, hs,
        (Document.wellFormed_iff_definesSchema rfl rfl hs).2 h⟩⟩

/-- Nothing else in the document is read. -/
theorem build_schemaPart : build document.schemaPart = build document := by
  simp only [build, Document.types_schemaPart, Document.directives_schemaPart,
    Document.roots_schemaPart]

/-- What a document defines is listed and found in the schema that it builds. -/
structure Lists (s : Schema) (document : Document) : Prop where
  types : s.types = document.types
  directives : s.directives = document.directives
  type? : ∀ n, s.type? n = document.type? n
  type?_name : ∀ t ∈ document.types, s.type? t.name = some t
  roots : ∀ kind n, s.roots.get? kind = some n ↔ document.HasRoot kind n
  queryDefinition : ∃ t, s.queryDefinition? = some t ∧ t.isObject = true

theorem lists_of_build {s : Schema} (h : build document = .ok s) : s.Lists document := by
  obtain ⟨htypes, hdirectives, hroots, hwell⟩ := build_eq_ok_iff.1 h
  refine ⟨htypes, hdirectives, Document.type?_eq_of_types htypes, fun t ht => ?_, fun kind n => ?_,
    hwell.queryType_object⟩
  · exact (type?_eq_some_iff hwell.types_nodup).2 ⟨htypes ▸ ht, rfl⟩
  · rw [Document.hasRoot_iff, hroots]

end Schema

/-- A document builds a schema if and only if it defines one; the schema then lists and finds what
the document does. Extensions and executable definitions make no difference, not even to the fault
of a document that defines no schema. -/
theorem Schema.build_iff_definesSchema (document : Document) :
    ((∃ s, Schema.build document = .ok s) ↔ document.DefinesSchema) ∧
      (∀ s, Schema.build document = .ok s → s.Lists document) ∧
      Schema.build document.schemaPart = Schema.build document :=
  ⟨exists_build_eq_ok_iff, fun _ => lists_of_build, build_schemaPart⟩

def Sample.petsBesides : Document := ⟨pets.definitions ++ [
  .extension (.type ⟨none, "Query", [], .object [] [field "Unknown" (.named "Unknown")]⟩),
  .operation ⟨.query, none, [], [], []⟩]⟩

theorem Sample.build_petsBesides : ∃ s, Schema.build petsBesides = .ok s ∧ s.Lists petsBesides ∧
    petsBesides.schemaPart = pets ∧ Schema.build pets = Schema.build petsBesides := by
  obtain ⟨-, hlists, hpart⟩ := Schema.build_iff_definesSchema petsBesides
  exact ⟨_, rfl, hlists _ rfl, rfl, hpart⟩

end SchemaReshape
