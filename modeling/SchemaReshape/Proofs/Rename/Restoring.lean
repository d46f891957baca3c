import SchemaReshape.Proofs.Rename.Composition
import SchemaReshape.Proofs.Rename.EmptyPlan

/-!
# Undoing a renaming

A renaming that suppresses nothing is undone by the plan that gives every type its former name back
(`Plan.restoring`). The two plans in turn are the plan without entries (`Plan.restoring_composes`),
and the renamed schema admits the second one as long as no former name counts as that of a built-in
scalar (`Schema.admits_restoring`), so that the document comes back (`Document.rename_restoring`).
-/

namespace SchemaReshape

namespace Plan

/-- Gives every type its former name back. -/
def restoring (formerNames : NameMap Name) : Plan :=
  .ofList (formerNames.toList.map fun e => (e.1, .rename e.2))

section Restoring

variable (names : NameMap Name) (n : Name)

theorem change?_restoring : (restoring names).change? n = (names.get? n).map .rename :=
  SortedMap.get?_ofList_map_toList names TypeChange.rename n

theorem newName?_restoring :
    (restoring names).newName? n = some ((names.get? n).getD n) := by
  rw [newName?, change?_restoring]
  cases names.get? n <;> rfl

theorem newName_restoring :
    (restoring names).newName n = (names.get? n).getD n := by
  rw [newName, newName?_restoring, Option.getD_some]

theorem isEmpty_suppressions_restoring : (restoring names).suppressions.isEmpty = true := by
  refine Suppressions.isEmpty_iff.2 ⟨fun n => ?_, fun _ _ => rfl⟩
  rw [hasType_suppressions, newName?_restoring, Option.isNone_some]

end Restoring

end Plan

section Renamed

variable {document : Document} {s : Schema} {plan : Plan} {settings : Settings}
variable (h : s.Admits plan settings) (hspares : plan.SparesBuiltins)

include h hspares

theorem Schema.get?_formerNames_of_builtin {n : Name} (hn : n.isBuiltinScalar = true) :
    (s.formerNames plan).get? n = none := by
  refine Option.eq_none_iff_forall_ne_some.2 fun m hformer => ?_
  obtain ⟨⟨d, hd, rfl⟩, hname, hne⟩ := (get?_formerNames_iff h hspares).1 hformer
  obtain ⟨hkept, rfl⟩ := Plan.newName?_eq_some_iff.1 hname
  have hnot := h.not_builtin d hd hkept hne
  rw [Settings.isBuiltinScalar, hn, Bool.true_or] at hnot
  cases hnot

theorem Plan.restoring_sparesBuiltins : (restoring (s.formerNames plan)).SparesBuiltins := by
  intro n hn
  rw [change?_restoring, Schema.get?_formerNames_of_builtin h hspares hn, Option.map_none]

variable (hnothing : plan.suppressions.isEmpty = true)

include hnothing

theorem Plan.restoring_newName {d : TypeDefinition} (hd : d ∈ s.types) :
    (restoring (s.formerNames plan)).newName (plan.newName d.name) = d.name := by
  rw [newName_restoring]
  exact Schema.getD_formerNames h hspares hd (newName?_of_isEmpty hnothing d.name)

/-- The plan and the one that restores the names come to nothing. -/
theorem Plan.restoring_composes : Composes s plan (restoring (s.formerNames plan)) ∅ := by
  refine ⟨fun n hn => ?_, fun d _ field _ => ?_⟩
  · rw [newName?_of_isEmpty hnothing, Option.bind_some, newName?_restoring, newName?_empty]
    rcases Schema.isDefined_iff.1 hn with hbuiltin | ⟨d, hd, rfl⟩
    · rw [hspares.newName_eq hbuiltin, Schema.get?_formerNames_of_builtin h hspares hbuiltin,
        Option.getD_none]
    · rw [← newName_restoring, restoring_newName h hspares hnothing hd]
  · rw [(Suppressions.isEmpty_iff.1 hnothing).2]
    rfl

variable (hs : document.Supports s)

include hs

theorem Schema.newName_restoring_of_mem {e : TypeDefinition} (he : e ∈ (s.renamed plan).types) :
    ∃ d ∈ s.types, plan.newName d.name = e.name ∧
      (Plan.restoring (s.formerNames plan)).newName e.name = d.name := by
  obtain ⟨d, hd, -, rfl⟩ := mem_types_renamed.1 he
  rw [name_applyType hs h hd]
  exact ⟨d, hd, rfl, Plan.restoring_newName h hspares hnothing hd⟩

omit hnothing in
theorem Schema.isPossibleFor_restoring :
    (Plan.restoring (s.formerNames plan)).IsPossibleFor (s.renamed plan) := by
  refine ⟨fun e he hscalar => ?_, fun e _ n hn => ?_, fun hquery => ?_⟩
  · obtain ⟨d, hd, -, rfl⟩ := mem_types_renamed.1 he
    rw [Plan.isScalar_applyType] at hscalar
    have hchange := h.scalar d hd hscalar
    have hname : plan.newName? d.name = some d.name := by rw [Plan.newName?, hchange]
    rw [name_applyType hs h hd, Plan.newName_eq_of_change?_eq_none hchange, Plan.change?_restoring,
      get?_formerNames_eq_none h hspares hd hname, Option.map_none]
  · rw [Plan.change?_restoring, Option.map_eq_some_iff] at hn
    obtain ⟨_, hformer, ⟨⟩⟩ := hn
    obtain ⟨⟨d, hd, rfl⟩, -⟩ := (get?_formerNames_iff h hspares).1 hformer
    exact (hs.types_supported d hd).name
  · rw [Plan.change?_restoring, Option.map_eq_some_iff] at hquery
    obtain ⟨_, -, ⟨⟩⟩ := hquery

variable (hextra : ∀ m n, (s.formerNames plan).get? m = some n → n ∉ settings.extraBuiltinScalars)

include hextra

theorem Schema.isFreeOfConflicts_restoring :
    (Plan.restoring (s.formerNames plan)).IsFreeOfConflicts (s.renamed plan) settings := by
  refine ⟨fun e₁ he₁ e₂ he₂ _ _ hname => ?_, fun e he _ hne => ?_⟩
  · obtain ⟨d₁, -, hd₁, hback₁⟩ := newName_restoring_of_mem h hspares hnothing hs he₁
    obtain ⟨d₂, -, hd₂, hback₂⟩ := newName_restoring_of_mem h hspares hnothing hs he₂
    rw [hback₁, hback₂] at hname
    rw [← hd₁, ← hd₂, hname]
  · obtain ⟨d, hd, -, hback⟩ := newName_restoring_of_mem h hspares hnothing hs he
    have hformer : (s.formerNames plan).get? e.name = some d.name := by
      rw [Plan.newName_restoring] at hback hne
      cases hget : (s.formerNames plan).get? e.name with
      | none => simp [hget] at hne
      | some n => rw [← hback, hget, Option.getD_some]
    have hnot : settings.extraBuiltinScalars.contains d.name = false :=
      Bool.eq_false_iff.2 (hextra _ _ hformer)
    rw [hback, Settings.isBuiltinScalar, hs.wellFormed.types_not_builtin d hd, hnot, Bool.or_false]

omit hspares hnothing hs hextra in
theorem Schema.emptyUnions_renamed : (s.renamed plan).emptyUnions = [] := by
  refine List.filter_eq_nil_iff.2 fun e he hempty => ?_
  obtain ⟨d, hd, hkept, rfl⟩ := mem_types_renamed.1 he
  obtain ⟨members, hmembers, hnone⟩ := Plan.union_applyType_iff.1 (of_decide_eq_true hempty)
  rw [← Plan.hasType_suppressions_eq] at hkept
  obtain ⟨n, hn, hnkept⟩ := h.members d hd hkept members hmembers
  rw [Plan.hasType_suppressions_eq] at hnkept
  exact Plan.applyNames_ne_nil_iff.2 ⟨n, hn, hnkept⟩ hnone

/-- The former names are free for the types of the renamed schema. -/
theorem Schema.admits_restoring :
    (s.renamed plan).Admits (Plan.restoring (s.formerNames plan)) settings := by
  have hleave :
      (Plan.restoring (s.formerNames plan)).suppressions.LeaveNothing (s.renamed plan) :=
    (Suppressions.leaveNothing_iff_of_isEmpty (Plan.isEmpty_suppressions_restoring _)).2
      (emptyUnions_renamed h)
  exact ⟨isPossibleFor_restoring h hspares hs,
    isFreeOfConflicts_restoring h hspares hnothing hs hextra, hleave⟩

/-- The definitions come back as they were. A schema definition stays in front if the renaming put
it there. -/
theorem Plan.definitions_restoring (hschemas : document.schemas.length ≤ 1)
    (hs' : (plan.applyDocument s.queryType document).Supports (s.renamed plan)) :
    ((restoring (s.formerNames plan)).applyDocument (plan.newName s.queryType)
      (plan.applyDocument s.queryType document)).definitions =
      (if document.schemas = [] ∧ plan.newName s.queryType ≠ s.queryType then
        [.schema ⟨[], ⟨some s.queryType, none, none⟩⟩] else []) ++ document.definitions := by
  have hq := restoring_composes h hspares hnothing
  have h' := Schema.admits_restoring h hspares hnothing hs hextra
  have hback : (restoring (s.formerNames plan)).newName (plan.newName s.queryType) = s.queryType :=
    (hq.newName_queryType hs h h').symm
  have hdefinitions := hq.applyDefinitions_eq hs h h' hs' (fun _ _ _ => rfl) hschemas
  rw [applyDefinitions_empty] at hdefinitions
  have hadded : (restoring (s.formerNames plan)).rootDefinition (plan.newName s.queryType)
      ((restoring (s.formerNames plan)).applyDefinitions (plan.newName s.queryType)
        (plan.applyDocument s.queryType document).definitions) = [] := by
    rw [rootDefinition_eq, hback, if_neg]
    -- If the query type was renamed, a schema definition is there by now.
    rintro ⟨hnone, hne⟩
    rw [schemas_applyDocument] at hnone
    split at hnone
    · exact List.cons_ne_nil _ _ hnone
    · rename_i hnamed
      exact hnamed ⟨List.map_eq_nil_iff.1 hnone, hne.symm⟩
  rw [applyDocument, hadded, List.nil_append, applyDocument, applyDefinitions_append, hdefinitions,
    rootDefinition_eq]
  by_cases hnamed : document.schemas = [] ∧ plan.newName s.queryType ≠ s.queryType
  · rw [if_pos hnamed, if_pos hnamed]
    simp [applyDefinitions, applyDefinition, applySchema, hback]
  · rw [if_neg hnamed, if_neg hnamed, applyDefinitions, List.filterMap_nil]

theorem Schema.get?_formerNames_restoring {n m : Name} :
    ((s.renamed plan).formerNames (Plan.restoring (s.formerNames plan))).get? n = some m ↔
      (s.formerNames plan).get? m = some n := by
  have h' := admits_restoring h hspares hnothing hs hextra
  rw [get?_formerNames_iff h' (Plan.restoring_sparesBuiltins h hspares),
    exists_name_renamed_iff hs h, Plan.newName?_restoring, Option.some.injEq]
  constructor
  · rintro ⟨-, hname, hne⟩
    cases hformer : (s.formerNames plan).get? m with
    | none => simp [hformer, hne.symm] at hname
    | some k => rw [← hname, hformer, Option.getD_some]
  · intro hformer
    obtain ⟨⟨d, hd, rfl⟩, hname, hne⟩ := (get?_formerNames_iff h hspares).1 hformer
    exact ⟨⟨d, hd, hname⟩, by rw [hformer, Option.getD_some], hne.symm⟩

end Renamed

/-- A renaming without suppressions whose outcome is supported is undone by its former names, unless
one of these counts as the name of a built-in scalar. -/
theorem Document.rename_restoring {document : Document} {s' : Schema} {plan : Plan}
    {settings : Settings} {r : RenamedDocument} (hschemas : document.schemas.length ≤ 1)
    (hnothing : plan.suppressions.isEmpty = true) (hspares : plan.SparesBuiltins)
    (h : document.rename plan settings = .ok r) (hs' : r.document.supportedSchema = .ok s')
    (hextra : ∀ m n, r.formerNames.get? m = some n → n ∉ settings.extraBuiltinScalars) :
    ∃ queryType t, document.roots.query? = some queryType ∧
      r.document.rename (.restoring r.formerNames) settings = .ok t ∧
      t.document.definitions =
        (if document.schemas = [] ∧ plan.newName queryType ≠ queryType then
          [.schema ⟨[], ⟨some queryType, none, none⟩⟩] else []) ++ document.definitions ∧
      ∀ n m, t.formerNames.get? n = some m ↔ r.formerNames.get? m = some n := by
  obtain ⟨s, hs, hadmits, rfl⟩ := rename_eq_ok_iff.1 h
  rw [supportedSchema_eq_ok_iff] at hs'
  obtain rfl := eq_renamed_of_supports hs hadmits hs'
  have hquery : document.roots.query? = some s.queryType := by rw [hs.roots_eq]
  have hadmits' := Schema.admits_restoring hadmits hspares hnothing hs hextra
  refine ⟨s.queryType, _, hquery, rename_eq_ok_iff.2 ⟨_, hs', hadmits', rfl⟩, ?_, fun n m => ?_⟩
  · exact Plan.definitions_restoring hadmits hspares hnothing hs hextra hschemas hs'
  · exact Schema.get?_formerNames_restoring hadmits hspares hnothing hs hextra

def Sample.permutation : Plan :=
  .ofList [("Person", .rename "Dog"), ("Dog", .rename "Person"), ("Query", .rename "Root")]

theorem Sample.rename_pets_restoring : ∃ r s', pets.schemas.length ≤ 1 ∧
    permutation.suppressions.isEmpty = true ∧ permutation.SparesBuiltins ∧
    pets.rename permutation .standard = .ok r ∧ r.document.supportedSchema = .ok s' ∧
    (∀ m n, r.formerNames.get? m = some n → n ∉ Settings.standard.extraBuiltinScalars) ∧
    ∃ queryType t, pets.roots.query? = some queryType ∧
      r.document.rename (.restoring r.formerNames) .standard = .ok t ∧
      t.document.definitions =
        (if pets.schemas = [] ∧ permutation.newName queryType ≠ queryType then
          [.schema ⟨[], ⟨some queryType, none, none⟩⟩] else []) ++ pets.definitions ∧
      ∀ n m, t.formerNames.get? n = some m ↔ r.formerNames.get? m = some n :=
  have hrename : pets.rename permutation .standard = .ok _ := rfl
  have hsupported : Document.supportedSchema _ = .ok _ := rfl
  have hextra : ∀ m n, _ → n ∉ Settings.standard.extraBuiltinScalars := fun _ _ _ => nofun
  ⟨_, _, by decide, by decide, by decide, hrename, hsupported, hextra,
    Document.rename_restoring (by decide) (by decide) (by decide) hrename hsupported hextra⟩

end SchemaReshape
