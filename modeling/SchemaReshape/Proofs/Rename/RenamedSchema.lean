import SchemaReshape.Proofs.Rename.Applied

/-!
# The schema of a renamed document

`Schema.renamed` has the types that stay under their new names. It is well formed as far as names,
roots, interfaces and members go, whatever plan the schema admits. That fields and arguments still
lead to types is another matter, since an entry for a scalar of the language is not looked at but
applied (`Schema.wellFormed_renamed_iff`).
-/

namespace SchemaReshape

theorem Plan.forall_applyDefinitions_iff {document : Document} {s : Schema}
    (hs : document.Supports s) {plan : Plan} {P : Definition → Prop} :
    (∀ e ∈ plan.applyDefinitions s.queryType document.definitions, P e) ↔
      (∀ d ∈ document.schemas, P (.schema (plan.applySchema d))) ∧
      (∀ d ∈ s.types, plan.suppresses d.name = false → P (.type (plan.applyType s.queryType d))) ∧
      ∀ d ∈ s.directives, P (.directive (plan.applyDirective d)) := by
  simp only [applyDefinitions, List.mem_filterMap, hs.types, hs.directives, Document.mem_schemas,
    Document.mem_types, Document.mem_directives]
  constructor
  · intro h
    have htypes : ∀ d, .type d ∈ document.definitions → plan.suppresses d.name = false →
        P (.type (plan.applyType s.queryType d)) := by
      intro d hd hkept
      have hstays := (plan.applyDefinition_type_eq_some_iff s.queryType).2 ⟨hkept, rfl⟩
      exact h _ ⟨_, hd, hstays⟩
    exact ⟨fun d hd => h _ ⟨_, hd, rfl⟩, htypes, fun d hd => h _ ⟨_, hd, rfl⟩⟩
  · rintro ⟨hschemas, htypes, hdirectives⟩ e ⟨d, hd, he⟩
    have hsupported := hs.supported d hd
    cases d with
    | schema d =>
      cases he
      exact hschemas d hd
    | type d =>
      obtain ⟨hkept, rfl⟩ := (plan.applyDefinition_type_eq_some_iff s.queryType).1 he
      exact htypes d hd hkept
    | directive d =>
      cases he
      exact hdirectives d hd
    | extension | operation | fragment => exact hsupported.elim

namespace Schema

/-- The types that stay, with their new names everywhere. -/
def renamed (s : Schema) (plan : Plan) : Schema where
  types := s.types.filterMap (plan.applyType? s.queryType)
  directives := s.directives.map plan.applyDirective
  queryType := plan.newName s.queryType
  mutationType? := none
  subscriptionType? := none

/-- The types that the fields and arguments that stay refer to, and the arguments of directives. -/
def keptReferences (s : Schema) (p : Suppressions) : List Name :=
  (s.keptTypes p).flatMap (fun d => (s.keptFields p d).flatMap FieldDefinition.references) ++
    s.directives.flatMap DirectiveDefinition.references

/-- A scalar of the language that something still refers to gets the name of such a scalar or of a
type that stays. -/
def KeepsScalars (s : Schema) (plan : Plan) : Prop :=
  ∀ n ∈ s.keptReferences plan.suppressions, n.isBuiltinScalar = true →
    (plan.newName n).isBuiltinScalar = true ∨
      ∃ d ∈ s.types, plan.newName? d.name = some (plan.newName n)

variable {s : Schema} {plan : Plan}

theorem mem_types_renamed {e : TypeDefinition} :
    e ∈ (s.renamed plan).types ↔
      ∃ d ∈ s.types, plan.suppresses d.name = false ∧ plan.applyType s.queryType d = e := by
  simp only [renamed, List.mem_filterMap, Plan.applyType?_eq_some_iff]

theorem mem_keptFields {p : Suppressions} {d : TypeDefinition} {field : FieldDefinition} :
    field ∈ s.keptFields p d ↔
      field ∈ d.fields ∧ p.keepsField s.queryType d.name field.name = true := by
  rw [keptFields, List.mem_filter]

theorem fields_applyType_eq (d : TypeDefinition) :
    (plan.applyType s.queryType d).fields =
      (s.keptFields plan.suppressions d).map (plan.applyField (d.name == s.queryType)) := by
  rw [Plan.fields_applyType, Plan.applyFields, keptFields]

theorem mem_keptReferences {p : Suppressions} {n : Name} :
    n ∈ s.keptReferences p ↔
      (∃ d ∈ s.types, p.hasType d.name = false ∧
        ∃ field ∈ s.keptFields p d, n ∈ field.references) ∨
      ∃ d ∈ s.directives, n ∈ d.references := by
  simp only [keptReferences, List.mem_append, List.mem_flatMap, mem_keptTypes, and_assoc]

variable {document : Document} {settings : Settings}
variable (hs : document.Supports s) (h : s.Admits plan settings)

include h

theorem not_suppresses_of_mem_keptReferences {n : Name}
    (hn : n ∈ s.keptReferences plan.suppressions) : plan.suppresses n = false := by
  rw [← Plan.hasType_suppressions_eq]
  rcases mem_keptReferences.1 hn with ⟨d, hd, hkept, field, hfield, hn⟩ | ⟨d, hd, hn⟩
  · exact h.references d hd hkept field hfield n hn
  · exact h.directives d hd n hn

theorem not_suppresses_queryType : plan.suppresses s.queryType = false := by
  rw [Bool.eq_false_iff]
  intro hsuppressed
  exact h.queryType (Plan.suppresses_iff.1 hsuppressed)

include hs

theorem name_applyType {d : TypeDefinition} (hd : d ∈ s.types) :
    (plan.applyType s.queryType d).name = plan.newName d.name := by
  rw [Plan.applyType_eq_mk]
  exact Plan.newDefinitionName_eq h.toIsPossibleFor hd (hs.types_supported d hd)

theorem newName_eq_queryType_iff {d : TypeDefinition} (hd : d ∈ s.types)
    (hkept : plan.suppresses d.name = false) :
    plan.newName d.name = plan.newName s.queryType ↔ d.name = s.queryType := by
  refine ⟨fun hname => ?_, congrArg plan.newName⟩
  obtain ⟨t, ht, htname, -⟩ := hs.wellFormed.exists_queryType
  rw [← htname] at hname ⊢
  refine h.injective d hd t ht hkept ?_ hname
  rw [htname]
  exact not_suppresses_queryType h

theorem types_renamed_nodup : ((s.renamed plan).types.map (·.name)).Nodup := by
  have hnodup := hs.wellFormed.types_nodup
  rw [List.Nodup, List.pairwise_map] at hnodup ⊢
  rw [renamed, List.pairwise_filterMap]
  refine List.Pairwise.imp_of_mem ?_ hnodup
  intro d e hd he hne d' hd' e' he' hname
  obtain ⟨hdkept, rfl⟩ := (plan.applyType?_eq_some_iff s.queryType).1 hd'
  obtain ⟨hekept, rfl⟩ := (plan.applyType?_eq_some_iff s.queryType).1 he'
  rw [name_applyType hs h hd, name_applyType hs h he] at hname
  exact hne (h.injective d hd e he hdkept hekept hname)

theorem type?_renamed {n : Name} {d : TypeDefinition} (hd : s.type? n = some d)
    (hkept : plan.suppresses n = false) :
    (s.renamed plan).type? (plan.newName n) = some (plan.applyType s.queryType d) := by
  obtain ⟨hmem, rfl⟩ := (type?_eq_some_iff hs.wellFormed.types_nodup).1 hd
  rw [type?_eq_some_iff (types_renamed_nodup hs h), mem_types_renamed]
  exact ⟨⟨d, hmem, hkept, rfl⟩, name_applyType hs h hmem⟩

theorem exists_name_renamed_iff {m : Name} :
    (∃ e ∈ (s.renamed plan).types, e.name = m) ↔
      ∃ d ∈ s.types, plan.newName? d.name = some m := by
  simp only [mem_types_renamed, Plan.newName?_eq_some_iff]
  constructor
  · rintro ⟨e, ⟨d, hd, hkept, rfl⟩, rfl⟩
    exact ⟨d, hd, hkept, (name_applyType hs h hd).symm⟩
  · rintro ⟨d, hd, hkept, rfl⟩
    exact ⟨_, ⟨d, hd, hkept, rfl⟩, name_applyType hs h hd⟩

/-- References other than to scalars of the language lead to types that stay. -/
theorem isDefined_newName_iff {n : Name} (hn : n ∈ s.keptReferences plan.suppressions) :
    (s.renamed plan).isDefined (plan.newName n) = true ↔
      (n.isBuiltinScalar = true → (plan.newName n).isBuiltinScalar = true ∨
        ∃ d ∈ s.types, plan.newName? d.name = some (plan.newName n)) := by
  rw [isDefined_iff, exists_name_renamed_iff hs h]
  refine ⟨fun hdefined _ => hdefined, fun hscalar => ?_⟩
  have hdefined : s.isDefined n = true := by
    rcases mem_keptReferences.1 hn with ⟨d, hd, -, field, hfield, hn⟩ | ⟨d, hd, hn⟩
    · exact (hs.wellFormed.types_resolve d hd).fields field (mem_keptFields.1 hfield).1 n hn
    · exact hs.wellFormed.directives_resolve d hd n hn
  rcases isDefined_iff.1 hdefined with hbuiltin | ⟨d, hd, rfl⟩
  · exact hscalar hbuiltin
  · have hkept := not_suppresses_of_mem_keptReferences h hn
    exact .inr ⟨d, hd, Plan.newName?_eq_some_iff.2 ⟨hkept, rfl⟩⟩

theorem roots_renamed_object :
    ∀ n ∈ (s.renamed plan).roots.toList,
      ∃ t, (s.renamed plan).type? n = some t ∧ t.isObject = true := by
  intro n hn
  obtain rfl : n = plan.newName s.queryType := by simpa [roots, renamed, RootTypes.toList] using hn
  obtain ⟨t, ht, hobject⟩ := hs.wellFormed.queryType_object
  refine ⟨_, type?_renamed hs h ht (not_suppresses_queryType h), ?_⟩
  rw [Plan.isObject_applyType, hobject]

theorem types_renamed_not_builtin :
    ∀ e ∈ (s.renamed plan).types, e.name.isBuiltinScalar = false := by
  intro e he
  obtain ⟨d, hd, hkept, rfl⟩ := mem_types_renamed.1 he
  rw [name_applyType hs h hd]
  by_cases hname : plan.newName d.name = d.name
  · rw [hname]
    exact hs.wellFormed.types_not_builtin d hd
  · have hbuiltin := h.not_builtin d hd hkept hname
    rw [Settings.isBuiltinScalar, Bool.or_eq_false_iff] at hbuiltin
    exact hbuiltin.1

/-- What is referred to is renamed and filtered in the same way as the types are. -/
theorem resolves_renamed_iff {d : TypeDefinition} (hd : d ∈ s.types) :
    (s.renamed plan).Resolves (plan.applyType s.queryType d) ↔
      ∀ field ∈ s.keptFields plan.suppressions d, ∀ n ∈ field.references,
        (s.renamed plan).isDefined (plan.newName n) = true := by
  have hresolves := hs.wellFormed.types_resolve d hd
  constructor
  · intro hrenamed field hfield n hn
    refine hrenamed.fields (plan.applyField (d.name == s.queryType) field) ?_ _ ?_
    · rw [fields_applyType_eq]
      exact List.mem_map_of_mem hfield
    · rw [Plan.references_applyField]
      exact List.mem_map_of_mem hn
  · intro hfields
    have hinterfaces : ∀ m ∈ (plan.applyType s.queryType d).interfaces,
        ∃ t, (s.renamed plan).type? m = some t ∧ t.isInterface = true := by
      intro m hm
      rw [Plan.interfaces_applyType, Plan.mem_applyNames] at hm
      obtain ⟨n, hn, hkept, rfl⟩ := hm
      obtain ⟨t, ht, hinterface⟩ := hresolves.interfaces n hn
      exact ⟨_, type?_renamed hs h ht hkept, by rw [Plan.isInterface_applyType, hinterface]⟩
    have hmembers : ∀ m ∈ (plan.applyType s.queryType d).members,
        ∃ t, (s.renamed plan).type? m = some t ∧ t.isObject = true := by
      intro m hm
      rw [Plan.members_applyType, Plan.mem_applyNames] at hm
      obtain ⟨n, hn, hkept, rfl⟩ := hm
      obtain ⟨t, ht, hobject⟩ := hresolves.members n hn
      exact ⟨_, type?_renamed hs h ht hkept, by rw [Plan.isObject_applyType, hobject]⟩
    have hdefined : ∀ field ∈ (plan.applyType s.queryType d).fields, ∀ m ∈ field.references,
        (s.renamed plan).isDefined m = true := by
      intro field' hfield' m hm
      rw [fields_applyType_eq] at hfield'
      obtain ⟨field, hfield, rfl⟩ := List.mem_map.1 hfield'
      rw [Plan.references_applyField] at hm
      obtain ⟨n, hn, rfl⟩ := List.mem_map.1 hm
      exact hfields field hfield n hn
    have hinputs : (plan.applyType s.queryType d).inputFields = [] := by
      rw [Plan.inputFields_applyType, (hs.types_supported d hd).inputFields_eq_nil]
      rfl
    exact ⟨hinterfaces, hmembers, hdefined, by rw [hinputs]; exact nofun⟩

theorem wellFormed_renamed_iff : (s.renamed plan).WellFormed ↔ s.KeepsScalars plan := by
  have hreferences : s.KeepsScalars plan ↔ ∀ n ∈ s.keptReferences plan.suppressions,
      (s.renamed plan).isDefined (plan.newName n) = true :=
    forall₂_congr fun n hn => (isDefined_newName_iff hs h hn).symm
  rw [hreferences]
  constructor
  · intro hwell n hn
    rcases mem_keptReferences.1 hn with ⟨d, hd, hkept, field, hfield, hn⟩ | ⟨d, hd, hn⟩
    · rw [Plan.hasType_suppressions_eq] at hkept
      have hd' := hwell.types_resolve _ (mem_types_renamed.2 ⟨d, hd, hkept, rfl⟩)
      exact (resolves_renamed_iff hs h hd).1 hd' field hfield n hn
    · refine hwell.directives_resolve (plan.applyDirective d) (List.mem_map_of_mem hd) _ ?_
      rw [Plan.references_applyDirective]
      exact List.mem_map_of_mem hn
  · intro hdefined
    have hnodup : ((s.renamed plan).directives.map (·.name)).Nodup := by
      unfold renamed
      rw [List.map_map]
      exact hs.wellFormed.directives_nodup
    have htypes : ∀ e ∈ (s.renamed plan).types, (s.renamed plan).Resolves e := by
      intro e he
      obtain ⟨d, hd, hkept, rfl⟩ := mem_types_renamed.1 he
      rw [← Plan.hasType_suppressions_eq] at hkept
      rw [resolves_renamed_iff hs h hd]
      intro field hfield n hn
      exact hdefined n (mem_keptReferences.2 (.inl ⟨d, hd, hkept, field, hfield, hn⟩))
    have hdirectives : ∀ e ∈ (s.renamed plan).directives, ∀ m ∈ e.references,
        (s.renamed plan).isDefined m = true := by
      intro e he m hm
      obtain ⟨d, hd, rfl⟩ := List.mem_map.1 he
      rw [Plan.references_applyDirective] at hm
      obtain ⟨n, hn, rfl⟩ := List.mem_map.1 hm
      exact hdefined n (mem_keptReferences.2 (.inr ⟨d, hd, hn⟩))
    exact ⟨types_renamed_nodup hs h, types_renamed_not_builtin hs h, hnodup,
      roots_renamed_object hs h, htypes, hdirectives⟩

end Schema

end SchemaReshape
