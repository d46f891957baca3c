import SchemaReshape.Proofs.Rename.RenamedSchema
import SchemaReshape.Proofs.Schema.Roots

/-!
# When a renamed document is supported again

The checks before a renaming do not make sure that its result passes the checks of a schema. Two
things can go wrong: a scalar of the language gets a name that nothing has (`Schema.KeepsScalars`),
and a type gets a name by which it is taken for a root (`Document.KeepsRoots`). Nothing else can
(`Document.supportedSchema_rename_iff`).
-/

namespace SchemaReshape

section Supported

variable {plan : Plan}

theorem InputValueDefinition.IsPlain.apply {d : InputValueDefinition} (hd : d.IsPlain) :
    (plan.applyInput d).IsPlain := hd

theorem FieldDefinition.IsPlain.apply {d : FieldDefinition} (hd : d.IsPlain) (named : Bool) :
    (plan.applyField named d).IsPlain := by
  rw [Plan.applyField_eq_mk]
  refine ⟨fun a ha => ?_, hd.2⟩
  obtain ⟨a', ha', rfl⟩ := List.mem_map.1 ha
  exact (hd.1 a' ha').apply

variable {document : Document} {s : Schema} {settings : Settings}
variable (hs : document.Supports s) (h : s.Admits plan settings)

include hs h

theorem Schema.isTypeName_newName {d : TypeDefinition} (hd : d ∈ s.types) :
    (plan.newName d.name).isTypeName = true := by
  by_cases hname : plan.newName d.name = d.name
  · rw [hname]
    exact (hs.types_supported d hd).name
  · exact h.newName d hd _ (Plan.change?_of_newName_ne hname)

theorem Schema.isSupported_applyType {d : TypeDefinition} (hd : d ∈ s.types) :
    (plan.applyType s.queryType d).IsSupported := by
  have hsupported := hs.types_supported d hd
  have hname : (plan.applyType s.queryType d).name.isTypeName = true := by
    rw [name_applyType hs h hd]
    exact isTypeName_newName hs h hd
  have hkind : (plan.applyType s.queryType d).kind ≠ .inputObjectTypeDefinition := by
    rw [Plan.kind_applyType]
    exact hsupported.kind
  have hfields : ∀ field ∈ (plan.applyType s.queryType d).fields, field.IsPlain := by
    intro field' hfield'
    rw [fields_applyType_eq] at hfield'
    obtain ⟨field, hfield, rfl⟩ := List.mem_map.1 hfield'
    exact (hsupported.fields field (mem_keptFields.1 hfield).1).apply _
  refine ⟨hname, hkind, ?_, hfields, ?_⟩
  · rw [Plan.directives_applyType]
    exact hsupported.directives
  · rw [Plan.enumValues_applyType]
    exact hsupported.enumValues

theorem Document.isSupported_applyDocument :
    ∀ d ∈ (plan.applyDocument s.queryType document).definitions, d.IsSupported := by
  have hfront : ∀ d ∈ plan.rootDefinition s.queryType
      (plan.applyDefinitions s.queryType document.definitions), d.IsSupported := by
    rw [Plan.rootDefinition_eq]
    split
    · rw [List.forall_mem_singleton]
      exact nofun
    · exact nofun
  have hrest : ∀ d ∈ plan.applyDefinitions s.queryType document.definitions, d.IsSupported := by
    rw [Plan.forall_applyDefinitions_iff hs]
    refine ⟨fun d hd => ?_, fun d hd _ => Schema.isSupported_applyType hs h hd, ?_⟩
    · have hsupported := hs.supported (.schema d) (mem_schemas.1 hd)
      exact hsupported
    · intro d hd a' ha'
      have hd' : .directive d ∈ document.definitions := mem_directives.1 (hs.directives ▸ hd)
      obtain ⟨a, ha, rfl⟩ := List.mem_map.1 ha'
      exact (hs.supported _ hd' a ha).apply
  exact List.forall_mem_append.2 ⟨hfront, hrest⟩

theorem Schema.fieldsAgree_applyType {d : TypeDefinition} (hd : d ∈ s.types)
    (hkept : plan.suppresses d.name = false) :
    (plan.applyType s.queryType d).FieldsAgree (plan.newName s.queryType) := by
  intro _ hname field' hfield'
  rw [name_applyType hs h hd] at hname
  have hquery : d.name = s.queryType := (newName_eq_queryType_iff hs h hd hkept).1 hname
  rw [fields_applyType_eq] at hfield'
  obtain ⟨field, hfield, rfl⟩ := List.mem_map.1 hfield'
  have hagrees := hs.name_eq_baseName hd hquery (mem_keptFields.1 hfield).1
  rw [FieldDefinition.IsNamedAfterType, Plan.applyField_eq_mk, Plan.baseName_applyRef, hquery,
    beq_self_eq_true, if_pos rfl, hagrees]

end Supported

/-- Where the roots are found by their names, no type takes the name of a root of another kind. -/
def Document.KeepsRoots (document : Document) (s : Schema) (plan : Plan) : Prop :=
  document.schemas = [] → plan.newName s.queryType = s.queryType → ∀ d ∈ s.types,
    plan.newName? d.name ≠ some "Mutation" ∧ plan.newName? d.name ≠ some "Subscription"

namespace Document

variable {document : Document} {s : Schema} {plan : Plan} {settings : Settings}
variable (hs : document.Supports s) (h : s.Admits plan settings)

include hs

theorem types_applyDocument_eq :
    (plan.applyDocument s.queryType document).types = (s.renamed plan).types := by
  rw [Plan.types_applyDocument, ← hs.types, Schema.renamed]

theorem directives_applyDocument_eq :
    (plan.applyDocument s.queryType document).directives = (s.renamed plan).directives := by
  rw [Plan.directives_applyDocument, ← hs.directives, Schema.renamed]

/-- A root that is named keeps its place, also if it had to be named for the renaming. -/
theorem roots_applyDocument_of_named
    (hnamed : ¬ (document.schemas = [] ∧ plan.newName s.queryType = s.queryType)) :
    (plan.applyDocument s.queryType document).roots = (s.renamed plan).roots := by
  have hroots := hs.roots_eq
  rw [roots, Plan.schemas_applyDocument]
  rw [roots] at hroots
  cases hschemas : document.schemas with
  | nil =>
    rw [if_pos ⟨rfl, fun hname => hnamed ⟨hschemas, hname⟩⟩]
    rfl
  | cons d ds =>
    rw [hschemas] at hroots
    rw [if_neg fun hnil => List.cons_ne_nil d ds hnil.1]
    change (plan.applySchema d).roots = _
    have hd : d.roots = ⟨some s.queryType, none, none⟩ := hroots
    rw [Plan.applySchema, hd, Option.map_some, Plan.applyName_eq]
    rfl

include h

theorem roots_applyDocument_of_unnamed (hschemas : document.schemas = [])
    (hname : plan.newName s.queryType = s.queryType) :
    (plan.applyDocument s.queryType document).roots =
      ⟨some s.queryType,
        if ∃ d ∈ s.types, plan.newName? d.name = some "Mutation" then some "Mutation" else none,
        if ∃ d ∈ s.types, plan.newName? d.name = some "Subscription" then some "Subscription"
        else none⟩ := by
  have hquery : ∃ d ∈ s.types, plan.newName? d.name = some s.queryType := by
    obtain ⟨t, ht, htname, -⟩ := hs.wellFormed.exists_queryType
    refine ⟨t, ht, ?_⟩
    rw [htname, Plan.newName?_eq_some_iff]
    exact ⟨Schema.not_suppresses_queryType h, hname⟩
  have hafter : (plan.applyDocument s.queryType document).schemas = [] := by
    rw [Plan.schemas_applyDocument, hschemas, if_neg fun h => h.2 hname]
    rfl
  rw [roots_of_schemas_eq_nil hafter, ← (names_of_schemas_eq_nil hs hschemas).1]
  simp only [map_name_type?_eq, types_applyDocument_eq hs, Schema.exists_name_renamed_iff hs h,
    if_pos hquery]

theorem query?_roots_applyDocument :
    (plan.applyDocument s.queryType document).roots.query? = some (plan.newName s.queryType) := by
  by_cases hnamed : document.schemas = [] ∧ plan.newName s.queryType = s.queryType
  · rw [roots_applyDocument_of_unnamed hs h hnamed.1 hnamed.2, hnamed.2]
  · rw [roots_applyDocument_of_named hs hnamed]
    rfl

theorem roots_applyDocument_iff :
    (plan.applyDocument s.queryType document).roots = (s.renamed plan).roots ↔
      document.KeepsRoots s plan := by
  by_cases hnamed : document.schemas = [] ∧ plan.newName s.queryType = s.queryType
  · rw [roots_applyDocument_of_unnamed hs h hnamed.1 hnamed.2, Schema.roots, Schema.renamed,
      hnamed.2, KeepsRoots]
    simp only [hnamed, RootTypes.mk.injEq, true_and, ite_eq_right_iff, reduceCtorEq, imp_false,
      not_exists, not_and, forall_const, ← forall_and]
  · refine iff_of_true (roots_applyDocument_of_named hs hnamed) fun hschemas hname => ?_
    exact absurd ⟨hschemas, hname⟩ hnamed

/-- Only the renamed schema can be that of the renamed document. -/
theorem eq_renamed_of_supports {s' : Schema}
    (hs' : (plan.applyDocument s.queryType document).Supports s') : s' = s.renamed plan := by
  have hquery : s'.queryType = plan.newName s.queryType := by
    have hroot := query?_roots_applyDocument hs h
    rw [hs'.roots_eq] at hroot
    exact Option.some.inj hroot
  obtain ⟨types, directives, queryType, mutationType?, subscriptionType?⟩ := s'
  cases hs'.mutationType
  cases hs'.subscriptionType
  cases hquery
  rw [Schema.renamed, Schema.mk.injEq]
  exact ⟨hs'.types.trans (types_applyDocument_eq hs),
    hs'.directives.trans (directives_applyDocument_eq hs), rfl, rfl, rfl⟩

theorem supports_applyDocument_iff :
    (∃ s', (plan.applyDocument s.queryType document).Supports s') ↔
      s.KeepsScalars plan ∧ document.KeepsRoots s plan := by
  rw [← Schema.wellFormed_renamed_iff hs h, ← roots_applyDocument_iff hs h]
  constructor
  · rintro ⟨s', hs'⟩
    obtain rfl := eq_renamed_of_supports hs h hs'
    exact ⟨hs'.wellFormed, hs'.roots⟩
  · rintro ⟨hwell, hroots⟩
    have hfields : ∀ e ∈ (plan.applyDocument s.queryType document).types,
        e.FieldsAgree (plan.newName s.queryType) := by
      intro e he
      rw [types_applyDocument_eq hs, Schema.mem_types_renamed] at he
      obtain ⟨d, hd, hkept, rfl⟩ := he
      exact Schema.fieldsAgree_applyType hs h hd hkept
    exact ⟨s.renamed plan, (types_applyDocument_eq hs).symm, (directives_applyDocument_eq hs).symm,
      hroots, rfl, rfl, hwell, isSupported_applyDocument hs h, hfields⟩

end Document

/-- A renamed document is supported again unless a scalar of the language lost its name or a type
became a root by its name. -/
theorem Document.supportedSchema_rename_iff {document : Document} {s : Schema} {plan : Plan}
    {settings : Settings} {r : RenamedDocument} (hs : document.supportedSchema = .ok s)
    (h : document.rename plan settings = .ok r) :
    (∃ s', r.document.supportedSchema = .ok s') ↔
      s.KeepsScalars plan ∧ document.KeepsRoots s plan := by
  obtain ⟨s₀, hs₀, hadmits, rfl⟩ := rename_eq_ok_iff.1 h
  obtain rfl : s₀ = s := by
    rw [supportedSchema_eq_ok_iff.2 hs₀] at hs
    exact Except.ok.inj hs
  simp only [supportedSchema_eq_ok_iff]
  exact supports_applyDocument_iff hs₀ hadmits

theorem Sample.supportedSchema_rename_pets : ∃ s r,
    pets.supportedSchema = .ok s ∧ pets.rename swap .standard = .ok r ∧
      ((∃ s', r.document.supportedSchema = .ok s') ↔
        s.KeepsScalars swap ∧ pets.KeepsRoots s swap) :=
  ⟨_, _, rfl, rfl, Document.supportedSchema_rename_iff rfl
    (show pets.rename swap .standard = .ok _ from rfl)⟩

def Sample.queryOf (type : Name) : Document :=
  ⟨[.type ⟨none, "Query", [], .object [] [field "A" (.named "A")]⟩,
    .type ⟨none, "A", [], .object [] [field "x" (.named type)]⟩]⟩

/-- Both conditions can fail for a plan that is applied: a scalar gets a name that nothing has, and
a type becomes the mutation type. -/
theorem Sample.rename_unsupported :
    (∃ r, (queryOf "String").rename (.ofList [("String", .rename "Foo")]) .standard = .ok r ∧
      r.document.supportedSchema =
        .error (.structural (.unknownType "Foo" (.field "A" "x")))) ∧
    ∃ r, (queryOf "Int").rename (.ofList [("A", .rename "Mutation")]) .standard = .ok r ∧
      r.document.supportedSchema = .error (.structural .mutationRoot) :=
  ⟨⟨_, rfl, rfl⟩, ⟨_, rfl, rfl⟩⟩

end SchemaReshape
