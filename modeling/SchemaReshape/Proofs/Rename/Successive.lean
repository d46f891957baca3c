import SchemaReshape.Proofs.Rename.Composition

/-!
# Successive renamings

`Plan.andThen` writes down as one plan what two plans do one after the other. It gives a name back
to a type by having no entry for it, so that it leaves scalars alone as both plans do. A document
that can be renamed by the one plan and then by the other can be renamed by this plan, with the same
outcome (`Document.rename_andThen`).
-/

namespace SchemaReshape

namespace Plan

/-- What becomes of a type under the first plan and then the second one; no change if it gets its
own name back. -/
def changeThen? (p p' : Plan) (type : Name) : Option TypeChange :=
  match (p.newName? type).bind p'.newName? with
  | none => some .suppress
  | some name => if name = type then none else some (.rename name)

/-- Whether the first plan suppresses a field, or the second one under the new names of the field
and of its owner. -/
def suppressesFieldThen (p p' : Plan) (s : Schema) (type : Name) (field : FieldDefinition) : Bool :=
  p.suppressions.hasField type field.name ||
    p'.suppressions.hasField (p.newName type) (p.applyField (type == s.queryType) field).name

/-- One plan for two plans that are applied to the schema one after the other. -/
def andThen (p p' : Plan) (s : Schema) : Plan where
  types := .ofList <| s.types.filterMap fun d =>
    (p.changeThen? p' d.name).map fun change => (d.name, change)
  fields := .group <| s.types.flatMap fun d =>
    (d.fields.filter (p.suppressesFieldThen p' s d.name)).map fun field => (d.name, field.name)

variable {p p' : Plan} {s : Schema} {n : Name}

theorem change?_andThen_eq_some_iff {change : TypeChange} :
    (p.andThen p' s).change? n = some change ↔
      (∃ d ∈ s.types, d.name = n) ∧ p.changeThen? p' n = some change := by
  have hmem : ∀ {m c}, (m, c) ∈ (s.types.filterMap fun d =>
      (p.changeThen? p' d.name).map fun change => (d.name, change)) ↔
        (∃ d ∈ s.types, d.name = m) ∧ p.changeThen? p' m = some c := by
    intro m c
    simp only [List.mem_filterMap, Option.map_eq_some_iff, Prod.mk.injEq]
    constructor
    · rintro ⟨d, hd, _, hc, rfl, rfl⟩
      exact ⟨⟨d, hd, rfl⟩, hc⟩
    · rintro ⟨⟨d, hd, rfl⟩, hc⟩
      exact ⟨d, hd, c, hc, rfl, rfl⟩
  refine (SortedMap.get?_ofList_eq_some_iff ?_).trans hmem
  rintro ⟨m, a⟩ ha ⟨_, b⟩ hb rfl
  have hab := (hmem.1 ha).2.symm.trans (hmem.1 hb).2
  exact Option.some.inj hab

theorem change?_andThen_of_type {d : TypeDefinition} (hd : d ∈ s.types) :
    (p.andThen p' s).change? d.name = p.changeThen? p' d.name :=
  Option.ext fun _ => change?_andThen_eq_some_iff.trans (and_iff_right ⟨d, hd, rfl⟩)

theorem newName?_andThen_of_type {d : TypeDefinition} (hd : d ∈ s.types) :
    (p.andThen p' s).newName? d.name = (p.newName? d.name).bind p'.newName? := by
  rw [newName?, change?_andThen_of_type hd]
  unfold changeThen?
  cases (p.newName? d.name).bind p'.newName? with
  | none => rfl
  | some m =>
    by_cases hm : m = d.name
    · simp [hm]
    · simp [hm]

theorem hasField_andThen {d : TypeDefinition} (hd : d ∈ s.types) {field : FieldDefinition}
    (hfield : field ∈ d.fields) :
    (p.andThen p' s).suppressions.hasField d.name field.name =
      p.suppressesFieldThen p' s d.name field := by
  rw [Bool.eq_iff_iff]
  refine SortedMap.mem_get?_group.trans ?_
  simp only [List.mem_flatMap, List.mem_map, List.mem_filter, Prod.mk.injEq]
  constructor
  · rintro ⟨e, -, field', ⟨-, hsuppressed⟩, hname, hfieldName⟩
    rw [suppressesFieldThen, applyField_eq_mk] at *
    rwa [hname, hfieldName] at hsuppressed
  · intro hsuppressed
    exact ⟨d, hd, field, ⟨hfield, hsuppressed⟩, rfl, rfl⟩

theorem andThen_sparesBuiltins (p p' : Plan) (hs : s.WellFormed) :
    (p.andThen p' s).SparesBuiltins := by
  intro n hn
  refine Option.eq_none_iff_forall_ne_some.2 fun change hchange => ?_
  obtain ⟨⟨d, hd, rfl⟩, -⟩ := change?_andThen_eq_some_iff.1 hchange
  rw [hs.types_not_builtin d hd] at hn
  cases hn

theorem andThen_composes (hs : s.WellFormed) (hp : p.SparesBuiltins) (hp' : p'.SparesBuiltins) :
    Composes s p p' (p.andThen p' s) := by
  refine ⟨fun n hn => ?_, fun d hd field hfield => hasField_andThen hd hfield⟩
  rcases Schema.isDefined_iff.1 hn with hbuiltin | ⟨d, hd, rfl⟩
  · rw [(andThen_sparesBuiltins p p' hs).newName?_eq hbuiltin, hp.newName?_eq hbuiltin,
      Option.bind_some, hp'.newName?_eq hbuiltin]
  · exact newName?_andThen_of_type hd

variable {document : Document} {settings : Settings}

theorem change?_andThen_of_scalar (hs : document.Supports s) (h : s.Admits p settings)
    (h' : p'.IsPossibleFor (s.renamed p)) {d : TypeDefinition} (hd : d ∈ s.types)
    (hscalar : d.isScalar = true) : (p.andThen p' s).change? d.name = none := by
  have hp := h.scalar d hd hscalar
  have hkept : p.suppresses d.name = false := by
    rw [suppresses_eq_isNone, newName?, hp, Option.isNone_some]
  have hscalar' : (p.applyType s.queryType d).isScalar = true := by rwa [isScalar_applyType]
  have hname : (p.applyType s.queryType d).name = d.name := by
    rw [Schema.name_applyType hs h hd, newName_eq_of_change?_eq_none hp]
  have hp' := h'.scalar _ (Schema.mem_types_renamed.2 ⟨d, hd, hkept, rfl⟩) hscalar'
  rw [hname] at hp'
  rw [change?_andThen_of_type hd, changeThen?, newName?, hp, Option.bind_some, newName?, hp']
  exact if_pos rfl

/-- The name that a type has in the end leads back through the former names of both renamings. -/
theorem Composes.formerName_formerName {q : Plan} (hq : Composes s p p' q)
    (hs : document.Supports s) (h : s.Admits p settings) (h' : (s.renamed p).Admits p' settings)
    (hp : p.SparesBuiltins) (hp' : p'.SparesBuiltins) (d₁ d₂ : Document) {d : TypeDefinition}
    (hd : d ∈ s.types) (hname : q.newName? d.name = some n) :
    RenamedDocument.formerName ⟨d₁, s.formerNames p⟩
      (RenamedDocument.formerName ⟨d₂, (s.renamed p).formerNames p'⟩ n) = d.name := by
  rw [hq.newName? _ (Schema.isDefined_of_mem hd), Option.bind_eq_some_iff] at hname
  obtain ⟨m, hm, hn⟩ := hname
  obtain ⟨e, he, rfl⟩ := (Schema.exists_name_renamed_iff hs h).2 ⟨d, hd, hm⟩
  have hsecond : RenamedDocument.formerName ⟨d₂, (s.renamed p).formerNames p'⟩ n = e.name :=
    Schema.getD_formerNames h' hp' he hn
  rw [hsecond]
  exact Schema.getD_formerNames h hp hd hm

section Definitions

variable (plan plan' : Plan) (queryType queryType' : Name) (ds : List Definition)

theorem filter_rootDefinition :
    (plan.rootDefinition queryType ds).filter (·.schema?.isNone) = [] ∧
      (plan'.applyDefinitions queryType' (plan.rootDefinition queryType ds)).filter
        (·.schema?.isNone) = [] := by
  unfold rootDefinition
  dsimp only
  split <;> exact ⟨rfl, rfl⟩

theorem filter_applyDocument (document : Document) :
    (plan.applyDocument queryType document).definitions.filter (·.schema?.isNone) =
      (plan.applyDefinitions queryType document.definitions).filter (·.schema?.isNone) := by
  rw [applyDocument, List.filter_append, (filter_rootDefinition plan plan queryType queryType _).1,
    List.nil_append]

theorem filter_applyDocument_applyDocument (document : Document) :
    (plan'.applyDocument queryType' (plan.applyDocument queryType document)).definitions.filter
        (·.schema?.isNone) =
      (plan'.applyDefinitions queryType'
        (plan.applyDefinitions queryType document.definitions)).filter (·.schema?.isNone) := by
  have hfront := (filter_rootDefinition plan plan' queryType queryType'
    (plan.applyDefinitions queryType document.definitions)).2
  rw [filter_applyDocument, applyDocument, applyDefinitions_append, List.filter_append, hfront,
    List.nil_append]

end Definitions

end Plan

namespace Document

variable {document : Document} {p p' : Plan} {settings : Settings} {r₁ r₂ : RenamedDocument}

/-- Two renamings that succeed one after the other are the renaming by any plan that does at once
what their plans do in turn. -/
theorem rename_of_composes {s : Schema} {q : Plan} (hs : document.supportedSchema = .ok s)
    (hschemas : document.schemas.length ≤ 1) (hp : p.SparesBuiltins) (hp' : p'.SparesBuiltins)
    (hq : Plan.Composes s p p' q) (hspares : q.SparesBuiltins)
    (hscalar : ∀ d ∈ s.types, d.isScalar = true → q.change? d.name = none)
    (h₁ : document.rename p settings = .ok r₁) (h₂ : r₁.document.rename p' settings = .ok r₂) :
    ∃ r, document.rename q settings = .ok r ∧
      r.document.definitions.filter (·.schema?.isNone) =
        r₂.document.definitions.filter (·.schema?.isNone) ∧
      (∃ queryType, r.document.roots.query? = some queryType ∧
        r₂.document.roots.query? = some queryType) ∧
      ∀ m n, r.formerNames.get? m = some n ↔
        (∃ d ∈ r.document.types, d.name = m) ∧ r₁.formerName (r₂.formerName m) = n ∧ n ≠ m := by
  obtain ⟨hs, h, rfl⟩ := admits_of_rename hs h₁
  obtain ⟨s', hs', h', rfl⟩ := rename_eq_ok_iff.1 h₂
  obtain rfl := eq_renamed_of_supports hs h hs'
  have hadmits := hq.admits hs h h' hs' hscalar
  refine ⟨_, rename_eq_ok_iff.2 ⟨s, hs, hadmits, rfl⟩, ?_, ?_, fun m n => ?_⟩
  · rw [Plan.filter_applyDocument, Plan.filter_applyDocument_applyDocument,
      ← hq.applyDefinitions_eq hs h h' hs' hscalar hschemas]
    rfl
  · refine ⟨_, query?_roots_applyDocument hs hadmits, ?_⟩
    rw [query?_roots_applyDocument hs' h', hq.newName_queryType hs h h']
    rfl
  · have hback := fun d (hd : d ∈ s.types) (hname : q.newName? d.name = some m) =>
      hq.formerName_formerName hs h h' hp hp' (p.applyDocument s.queryType document)
        (p'.applyDocument (s.renamed p).queryType (p.applyDocument s.queryType document)) hd hname
    rw [Schema.get?_formerNames_iff hadmits hspares, types_applyDocument_eq hs,
      Schema.exists_name_renamed_iff hs hadmits]
    constructor
    · rintro ⟨⟨d, hd, rfl⟩, hname, hne⟩
      exact ⟨⟨d, hd, hname⟩, hback d hd hname, hne.symm⟩
    · rintro ⟨⟨d, hd, hname⟩, hformer, hne⟩
      obtain rfl := (hback d hd hname).symm.trans hformer
      exact ⟨⟨d, hd, rfl⟩, hname, hne.symm⟩

/-- Two renamings that succeed one after the other are one renaming: it succeeds, with the same
definitions of types and directives and the same query type, and its former names are those of the
second renaming followed back through the first. -/
theorem rename_andThen (hschemas : document.schemas.length ≤ 1) (hp : p.SparesBuiltins)
    (hp' : p'.SparesBuiltins) (h₁ : document.rename p settings = .ok r₁)
    (h₂ : r₁.document.rename p' settings = .ok r₂) :
    ∃ s r, document.supportedSchema = .ok s ∧
      document.rename (p.andThen p' s) settings = .ok r ∧
      r.document.definitions.filter (·.schema?.isNone) =
        r₂.document.definitions.filter (·.schema?.isNone) ∧
      (∃ queryType, r.document.roots.query? = some queryType ∧
        r₂.document.roots.query? = some queryType) ∧
      ∀ m n, r.formerNames.get? m = some n ↔
        (∃ d ∈ r.document.types, d.name = m) ∧ r₁.formerName (r₂.formerName m) = n ∧ n ≠ m := by
  obtain ⟨s, hs, h, hr₁⟩ := rename_eq_ok_iff.1 h₁
  obtain ⟨s', hs', h', -⟩ := rename_eq_ok_iff.1 h₂
  rw [hr₁] at hs'
  obtain rfl := eq_renamed_of_supports hs h hs'
  have hsupported := supportedSchema_eq_ok_iff.2 hs
  have hcomposes := Plan.andThen_composes hs.wellFormed hp hp'
  have hspares := Plan.andThen_sparesBuiltins p p' hs.wellFormed
  have hscalar : ∀ d ∈ s.types, d.isScalar = true → (p.andThen p' s).change? d.name = none :=
    fun d => Plan.change?_andThen_of_scalar hs h h'.toIsPossibleFor
  obtain ⟨r, hr⟩ :=
    rename_of_composes hsupported hschemas hp hp' hcomposes hspares hscalar h₁ h₂
  exact ⟨s, r, hsupported, hr⟩

end Document

def Sample.afterSwap : Plan where
  types := .ofList [("Person", .rename "Cat"), ("Size", .suppress)]
  fields := .ofList [("Dog", .ofList ["pet"]), ("Person", .ofList ["kind"])]

theorem Sample.rename_pets_andThen : ∃ r₁ r₂, pets.schemas.length ≤ 1 ∧ swap.SparesBuiltins ∧
    afterSwap.SparesBuiltins ∧ pets.rename swap .standard = .ok r₁ ∧
    r₁.document.rename afterSwap .standard = .ok r₂ ∧
    ∃ s r, pets.supportedSchema = .ok s ∧ pets.rename (swap.andThen afterSwap s) .standard = .ok r ∧
      r.document.definitions.filter (·.schema?.isNone) =
        r₂.document.definitions.filter (·.schema?.isNone) ∧
      (∃ queryType, r.document.roots.query? = some queryType ∧
        r₂.document.roots.query? = some queryType) ∧
      ∀ m n, r.formerNames.get? m = some n ↔
        (∃ d ∈ r.document.types, d.name = m) ∧ r₁.formerName (r₂.formerName m) = n ∧ n ≠ m :=
  have hswap : pets.rename swap .standard = .ok _ := rfl
  have hafter : Document.rename _ afterSwap .standard = .ok _ := rfl
  ⟨_, _, by decide, by decide, by decide, hswap, hafter,
    Document.rename_andThen (by decide) (by decide) (by decide) hswap hafter⟩

end SchemaReshape
