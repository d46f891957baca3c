import SchemaReshape.Proofs.Rename.Applied

/-!
# A renaming is a deletion and one substitution

`Definition.withoutSuppressed` takes out of a definition what a plan suppresses and changes no
name. `Definition.substitute` replaces every name of a type in a definition by its image under one
map, so that a name that was put in is never looked up again. A renamed document is the document
without what is suppressed under the substitution of the plan, behind a new schema definition where
the query type would no longer be found (`Document.rename_definitions_eq`).
-/

namespace SchemaReshape

section Deletion

variable (plan : Plan) (queryType : Name)

def Plan.removesType (type : Name) : Bool := plan.change? type = some .suppress

/-- Whether a field of the type is suppressed, by itself or, in the query type, with the type that
it is named after. -/
def Plan.removesField (type field : Name) : Bool :=
  plan.suppressedFields.contains (type, field) || type == queryType && plan.removesType field

def Plan.typesLeft (names : List Name) : List Name := names.filter fun n => !plan.removesType n

def Plan.fieldsLeft (type : Name) (fields : List FieldDefinition) : List FieldDefinition :=
  fields.filter fun field => !plan.removesField queryType type field.name

def TypeDefinition.withoutSuppressed (d : TypeDefinition) : TypeDefinition :=
  { d with
    body := match d.body with
      | .object interfaces fields =>
        .object (plan.typesLeft interfaces) (plan.fieldsLeft queryType d.name fields)
      | .interface interfaces fields =>
        .interface (plan.typesLeft interfaces) (plan.fieldsLeft queryType d.name fields)
      | .union members => .union (plan.typesLeft members)
      | .scalar => .scalar
      | .enum values => .enum values
      | .inputObject fields => .inputObject fields }

def Definition.withoutSuppressed : Definition → Option Definition
  | type d =>
    if plan.removesType d.name then none else some (type (d.withoutSuppressed plan queryType))
  | d => some d

end Deletion

section Substitution

variable (σ : Name → Name) (queryType : Name)

def TypeRef.substitute : TypeRef → TypeRef
  | named name => named (σ name)
  | list inner => list inner.substitute
  | nonNull inner => nonNull inner.substitute

def InputValueDefinition.substitute (d : InputValueDefinition) : InputValueDefinition :=
  { d with type := d.type.substitute σ }

/-- The name of a field is that of a type only in the query type. -/
def FieldDefinition.substitute (owner : Name) (d : FieldDefinition) : FieldDefinition :=
  { d with
    name := if owner = queryType then σ d.name else d.name
    arguments := d.arguments.map (·.substitute σ)
    type := d.type.substitute σ }

def TypeDefinition.substitute (d : TypeDefinition) : TypeDefinition :=
  { d with
    name := σ d.name
    body := match d.body with
      | .object interfaces fields =>
        .object (interfaces.map σ) (fields.map (·.substitute σ queryType d.name))
      | .interface interfaces fields =>
        .interface (interfaces.map σ) (fields.map (·.substitute σ queryType d.name))
      | .union members => .union (members.map σ)
      | .inputObject fields => .inputObject (fields.map (·.substitute σ))
      | .scalar => .scalar
      | .enum values => .enum values }

def SchemaDefinition.substitute (d : SchemaDefinition) : SchemaDefinition :=
  { d with roots := { d.roots with query? := d.roots.query?.map σ } }

def DirectiveDefinition.substitute (d : DirectiveDefinition) : DirectiveDefinition :=
  { d with arguments := d.arguments.map (·.substitute σ) }

def Definition.substitute : Definition → Definition
  | schema d => schema (d.substitute σ)
  | type d => type (d.substitute σ queryType)
  | directive d => directive (d.substitute σ)
  | extension (.schema d) => extension (.schema (d.substitute σ))
  | extension (.type d) => extension (.type (d.substitute σ queryType))
  | operation d => operation d
  | fragment d => fragment d

end Substitution

namespace Plan

variable (plan : Plan)

/-- Sends a type to the name that its entry gives it, and every other type to itself. -/
def substitution (type : Name) : Name :=
  match plan.change? type with
  | some (.rename newName) => newName
  | some .suppress | none => type

theorem newName_eq_substitution : plan.newName = plan.substitution := by
  funext type
  unfold newName newName? substitution
  rcases plan.change? type with _ | _ | _ <;> rfl

theorem suppresses_eq_removesType (type : Name) : plan.suppresses type = plan.removesType type := by
  rw [Bool.eq_iff_iff, suppresses_iff, removesType, decide_eq_true_iff]

theorem applyName_eq_substitution : plan.applyName = plan.substitution := by
  funext type
  rw [applyName_eq, newName_eq_substitution]

theorem applyNames_eq (types : List Name) :
    plan.applyNames types = (plan.typesLeft types).map plan.substitution := by
  simp only [applyNames, typesLeft, suppresses_eq_removesType, applyName_eq_substitution]

/-- A reference that is passed on as it is has no name that the substitution would replace. -/
theorem applyRef_eq (type : TypeRef) : plan.applyRef type = type.substitute plan.substitution := by
  induction type with
  | named name => rw [applyRef_named, newName_eq_substitution, TypeRef.substitute]
  | list inner ih => rw [applyRef_list, ih, TypeRef.substitute]
  | nonNull inner ih => rw [applyRef_nonNull, ih, TypeRef.substitute]

theorem applyInput_eq : plan.applyInput = InputValueDefinition.substitute plan.substitution := by
  funext d
  rw [applyInput, applyRef_eq]
  rfl

variable (queryType : Name)

theorem keepsField_eq (type field : Name) : plan.suppressions.keepsField queryType type field =
    !plan.removesField queryType type field := by
  have hfield : plan.suppressedFields.contains (type, field) =
      plan.suppressions.hasField type field := by
    rw [Bool.eq_iff_iff, List.contains_iff_mem, mem_suppressedFields]
  rw [Suppressions.keepsField, removesField, hfield, hasType_suppressions_eq,
    suppresses_eq_removesType, Bool.not_or]

theorem applyFields_eq (type : Name) (fields : List FieldDefinition) :
    plan.applyFields queryType type fields =
      (plan.fieldsLeft queryType type fields).map
        (·.substitute plan.substitution queryType type) := by
  have hfield : plan.applyField (type == queryType) =
      (·.substitute plan.substitution queryType type) := by
    funext field
    simp only [applyField_eq_mk, FieldDefinition.substitute, applyInput_eq, applyRef_eq,
      newName_eq_substitution, beq_iff_eq]
  simp only [applyFields, fieldsLeft, keepsField_eq, hfield]

theorem applyBody_eq (d : TypeDefinition) :
    plan.applyBody queryType d.name d.body =
      ((d.withoutSuppressed plan queryType).substitute plan.substitution queryType).body := by
  obtain ⟨description, name, directives, body⟩ := d
  cases body <;>
    simp only [applyBody, TypeDefinition.withoutSuppressed, TypeDefinition.substitute,
      applyNames_eq, applyFields_eq, applyInput_eq]

variable {plan} {s : Schema} {settings : Settings}

theorem applyType_eq (h : plan.IsPossibleFor s) {d : TypeDefinition} (hd : d ∈ s.types)
    (hsupported : d.IsSupported) :
    plan.applyType queryType d =
      (d.withoutSuppressed plan queryType).substitute plan.substitution queryType := by
  have hname := newDefinitionName_eq h hd hsupported
  rw [newName_eq_substitution] at hname
  rw [applyType_eq_mk, hname, applyBody_eq]
  rfl

theorem applyDefinition_eq (h : plan.IsPossibleFor s) {d : Definition}
    (htypes : ∀ t, d = .type t → t ∈ s.types) (hsupported : d.IsSupported) :
    plan.applyDefinition queryType d =
      (d.withoutSuppressed plan queryType).map
        (·.substitute plan.substitution queryType) := by
  cases d with
  | schema d =>
    rw [applyDefinition, applySchema, applyName_eq_substitution]
    rfl
  | type d =>
    rw [applyDefinition, applyType_eq queryType h (htypes d rfl) hsupported,
      suppresses_eq_removesType, Definition.withoutSuppressed]
    cases plan.removesType d.name <;> rfl
  | directive d =>
    rw [applyDefinition, applyDirective, applyInput_eq]
    rfl
  | extension | operation | fragment => exact hsupported.elim

theorem applyDefinitions_eq_map {document : Document} (hs : document.Supports s)
    (h : plan.IsPossibleFor s) :
    plan.applyDefinitions s.queryType document.definitions =
      (document.definitions.filterMap (·.withoutSuppressed plan s.queryType)).map
        (·.substitute plan.substitution s.queryType) := by
  rw [applyDefinitions, List.map_filterMap]
  refine List.filterMap_congr fun d hd => ?_
  refine applyDefinition_eq s.queryType h ?_ (hs.supported d hd)
  rintro t rfl
  rw [hs.types, Document.mem_types]
  exact hd

end Plan

/-- A renamed document holds what the plan leaves of the definitions, in their order, every name of
a type replaced at once. A definition of the schema comes first if the document has none and its
query type changes its name. -/
theorem Document.rename_definitions_eq {document : Document} {plan : Plan} {settings : Settings}
    {r : RenamedDocument} (h : document.rename plan settings = .ok r) :
    ∃ queryType, document.roots.query? = some queryType ∧
      r.document.definitions =
        (if document.schemas = [] ∧ plan.substitution queryType ≠ queryType then
          [.schema ⟨[], ⟨some (plan.substitution queryType), none, none⟩⟩] else []) ++
        (document.definitions.filterMap
          (·.withoutSuppressed plan queryType)).map
            (·.substitute plan.substitution queryType) := by
  obtain ⟨s, hs, hadmits, rfl⟩ := rename_eq_ok_iff.1 h
  refine ⟨s.queryType, by rw [hs.roots, Schema.roots], ?_⟩
  change plan.rootDefinition s.queryType (plan.applyDefinitions s.queryType document.definitions) ++
    plan.applyDefinitions s.queryType document.definitions = _
  rw [Plan.rootDefinition_eq, Plan.newName_eq_substitution,
    Plan.applyDefinitions_eq_map hs hadmits.toIsPossibleFor]

theorem Sample.rename_pets_definitions : ∃ r, pets.rename swap .standard = .ok r ∧
    ∃ queryType, pets.roots.query? = some queryType ∧
      r.document.definitions =
        (if pets.schemas = [] ∧ swap.substitution queryType ≠ queryType then
          [.schema ⟨[], ⟨some (swap.substitution queryType), none, none⟩⟩] else []) ++
        (pets.definitions.filterMap (·.withoutSuppressed swap queryType)).map
          (·.substitute swap.substitution queryType) :=
  ⟨_, rfl, Document.rename_definitions_eq (show pets.rename swap .standard = .ok _ from rfl)⟩

end SchemaReshape
