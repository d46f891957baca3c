import SchemaReshape.Proofs.Schema.Supported
import SchemaReshape.Proofs.Sorted.Group
import SchemaReshape.Rename.Basic

/-!
# Plans that a schema admits

Before a plan is applied its entries, the new names and the suppressions are checked against the
schema. `Schema.Admits` says what these checks ask for, each part as a statement about all types of
the schema, and `Document.rename_eq_ok_iff` says that a document is renamed exactly if it is
supported and its schema admits the plan.
-/

namespace SchemaReshape

open Check

namespace Plan

variable {plan : Plan} {n m : Name}

theorem hasType_suppressions_eq : plan.suppressions.hasType n = plan.suppresses n := rfl

theorem suppresses_eq_isNone : plan.suppresses n = (plan.newName? n).isNone :=
  plan.hasType_suppressions n

theorem newName?_eq_some_iff :
    plan.newName? n = some m ↔ plan.suppresses n = false ∧ plan.newName n = m := by
  rw [suppresses_eq_isNone, newName]
  cases plan.newName? n <;> simp

theorem suppresses_iff : plan.suppresses n = true ↔ plan.change? n = some .suppress := by
  rw [suppresses_eq_isNone, Option.isNone_iff_eq_none, newName?_eq_none_iff]

theorem change?_of_newName_ne (h : plan.newName n ≠ n) :
    plan.change? n = some (.rename (plan.newName n)) := by
  unfold newName newName? at *
  cases hc : plan.change? n with
  | none => simp [hc] at h
  | some change =>
    cases change with
    | suppress => simp [hc] at h
    | rename _ => rfl

theorem newName_eq_of_change?_eq_none (h : plan.change? n = none) : plan.newName n = n := by
  unfold newName newName?
  rw [h, Option.getD_some]

variable (plan)

/-- The suppressed fields, each behind its owner. -/
def suppressedFields : List (Name × Name) :=
  plan.fields.toList.flatMap fun e => e.2.toList.map fun field => (e.1, field)

variable {plan} in
theorem mem_suppressedFields {type field : Name} :
    (type, field) ∈ plan.suppressedFields ↔ plan.suppressions.hasField type field = true := by
  have hentries : (type, field) ∈ plan.suppressedFields ↔
      ∃ names, plan.fields.get? type = some names ∧ field ∈ names := by
    simp only [suppressedFields, List.mem_flatMap, List.mem_map, Prod.exists, Prod.mk.injEq,
      SortedMap.mem_toList_iff, SortedSet.mem_toList]
    constructor
    · rintro ⟨_, names, hnames, _, hfield, rfl, rfl⟩
      exact ⟨names, hnames, hfield⟩
    · rintro ⟨names, hnames, hfield⟩
      exact ⟨type, names, hnames, field, hfield, rfl, rfl⟩
  rw [hentries, Suppressions.hasField_iff, Suppressions.fieldsOf]
  change _ ↔ field ∈ (plan.fields.get? type).getD ∅
  cases plan.fields.get? type with
  | none => simp
  | some names => simp

/-- The entries for types of the schema ask for nothing impossible. -/
structure IsPossibleFor (s : Schema) : Prop where
  scalar : ∀ d ∈ s.types, d.isScalar = true → plan.change? d.name = none
  newName : ∀ d ∈ s.types, ∀ n, plan.change? d.name = some (.rename n) → n.isTypeName = true
  queryType : plan.change? s.queryType ≠ some .suppress

/-- No two types that stay get one name, and none gets that of a built-in scalar. -/
structure IsFreeOfConflicts (s : Schema) (settings : Settings) : Prop where
  injective : ∀ d ∈ s.types, ∀ e ∈ s.types, plan.suppresses d.name = false →
    plan.suppresses e.name = false → plan.newName d.name = plan.newName e.name → d.name = e.name
  not_builtin : ∀ d ∈ s.types, plan.suppresses d.name = false → plan.newName d.name ≠ d.name →
    settings.isBuiltinScalar (plan.newName d.name) = false

end Plan

/-- What stays refers to nothing that is suppressed, and no type or union loses all that is in
it. -/
structure Suppressions.LeaveNothing (p : Suppressions) (s : Schema) : Prop where
  fields : ∀ d ∈ s.types, p.hasType d.name = false → d.fields ≠ [] → s.keptFields p d ≠ []
  members : ∀ d ∈ s.types, p.hasType d.name = false → ∀ members, d.body = .union members →
    ∃ n ∈ members, p.hasType n = false
  references : ∀ d ∈ s.types, p.hasType d.name = false → ∀ field ∈ s.keptFields p d,
    ∀ n ∈ field.references, p.hasType n = false
  directives : ∀ d ∈ s.directives, ∀ n ∈ d.references, p.hasType n = false

namespace Schema

variable {s : Schema} {plan : Plan} {settings : Settings}

theorem checkEntry_eq_ok_iff {type : Name} {change : TypeChange} :
    s.checkEntry type change = .ok () ↔ ∀ d, s.type? type = some d → d.isScalar = false ∧
      (∀ n, change = .rename n → n.isTypeName = true) ∧
      (change = .suppress → type ≠ s.queryType) := by
  cases h : s.type? type with
  | none => simp [checkEntry, h]
  | some d => cases change <;> simp [checkEntry, h]

theorem checkPlan_eq_ok_iff (h : s.WellFormed) :
    s.checkPlan plan = .ok () ↔ plan.IsPossibleFor s := by
  have hentries : s.checkPlan plan = .ok () ↔
      ∀ n change, plan.change? n = some change → s.checkEntry n change = .ok () := by
    simp [checkPlan, Plan.change?, ← SortedMap.mem_toList_iff]
  rw [hentries]
  simp only [checkEntry_eq_ok_iff, type?_eq_some_iff h.types_nodup]
  constructor
  · intro hall
    have hscalar : ∀ d ∈ s.types, d.isScalar = true → plan.change? d.name = none := by
      intro d hd hscalar
      cases hchange : plan.change? d.name with
      | none => rfl
      | some change =>
        have hnot := (hall _ _ hchange d ⟨hd, rfl⟩).1
        rw [hscalar] at hnot
        cases hnot
    have hname : ∀ d ∈ s.types, ∀ n, plan.change? d.name = some (.rename n) →
        n.isTypeName = true := by
      intro d hd n hn
      exact (hall _ _ hn d ⟨hd, rfl⟩).2.1 n rfl
    have hquery : plan.change? s.queryType ≠ some .suppress := by
      intro hquery
      obtain ⟨t, ht, -⟩ := h.queryType_object
      exact (hall _ _ hquery t ((type?_eq_some_iff h.types_nodup).1 ht)).2.2 rfl rfl
    exact ⟨hscalar, hname, hquery⟩
  · rintro hpossible n change hchange d ⟨hd, rfl⟩
    have hscalar : d.isScalar = false := by
      cases hscalar : d.isScalar with
      | false => rfl
      | true => simp [hpossible.scalar d hd hscalar] at hchange
    refine ⟨hscalar, fun m hm => ?_, fun hsuppress hquery => ?_⟩
    · subst hm
      exact hpossible.newName d hd m hchange
    · subst hsuppress
      exact hpossible.queryType (hquery ▸ hchange)

theorem mem_renamedTypes {p : Name × Name} :
    p ∈ s.renamedTypes plan ↔
      ∃ d ∈ s.types, plan.suppresses d.name = false ∧ p = (plan.newName d.name, d.name) := by
  simp only [renamedTypes, List.mem_filterMap, Option.map_eq_some_iff, Plan.newName?_eq_some_iff]
  constructor
  · rintro ⟨d, hd, n, ⟨hkept, rfl⟩, rfl⟩
    exact ⟨d, hd, hkept, rfl⟩
  · rintro ⟨d, hd, hkept, rfl⟩
    exact ⟨d, hd, _, ⟨hkept, rfl⟩, rfl⟩

theorem isEmpty_shared_iff :
    (s.conflicts plan settings).shared.isEmpty = true ↔
      ∀ d ∈ s.types, ∀ e ∈ s.types, plan.suppresses d.name = false →
        plan.suppresses e.name = false → plan.newName d.name = plan.newName e.name →
        d.name = e.name := by
  rw [conflicts, SortedMap.isEmpty_filter_group_iff]
  simp only [mem_renamedTypes]
  constructor
  · intro h d hd e he hdkept hekept heq
    exact h _ ⟨d, hd, hdkept, rfl⟩ _ ⟨e, he, hekept, rfl⟩ heq
  · rintro h _ ⟨d, hd, hdkept, rfl⟩ _ ⟨e, he, hekept, rfl⟩ heq
    exact h d hd e he hdkept hekept heq

theorem isEmpty_builtin_iff :
    (s.conflicts plan settings).builtin.isEmpty = true ↔
      ∀ d ∈ s.types, plan.suppresses d.name = false → plan.newName d.name ≠ d.name →
        settings.isBuiltinScalar (plan.newName d.name) = false := by
  rw [conflicts, SortedMap.isEmpty_ofList_iff, List.map_eq_nil_iff, List.filter_eq_nil_iff]
  simp only [mem_renamedTypes, Bool.and_eq_true, bne_iff_ne, not_and, Bool.not_eq_true]
  constructor
  · intro h d hd hkept hne
    exact h _ ⟨d, hd, hkept, rfl⟩ hne
  · rintro h _ ⟨d, hd, hkept, rfl⟩ hne
    exact h d hd hkept hne

theorem checkConflicts_eq_ok_iff :
    s.checkConflicts plan settings = .ok () ↔ plan.IsFreeOfConflicts s settings := by
  have hclean : s.checkConflicts plan settings = .ok () ↔
      (s.conflicts plan settings).shared.isEmpty = true ∧
        (s.conflicts plan settings).builtin.isEmpty = true := by
    simp [checkConflicts, NameConflicts.isClean]
  rw [hclean, isEmpty_shared_iff, isEmpty_builtin_iff]
  constructor
  · rintro ⟨hinjective, hbuiltin⟩
    exact ⟨hinjective, hbuiltin⟩
  · intro h
    exact ⟨h.injective, h.not_builtin⟩

section Leftovers

variable {p : Suppressions}

theorem mem_keptTypes {d : TypeDefinition} :
    d ∈ s.keptTypes p ↔ d ∈ s.types ∧ p.hasType d.name = false := by
  simp [keptTypes]

theorem losesAllFields_eq_false_iff {d : TypeDefinition} :
    s.losesAllFields p d = false ↔ (d.fields ≠ [] → s.keptFields p d ≠ []) := by
  simp [losesAllFields]

theorem losesAllMembers_eq_false_iff {d : TypeDefinition} :
    d.losesAllMembers p = false ↔
      ∀ members, d.body = .union members → ∃ n ∈ members, p.hasType n = false := by
  unfold TypeDefinition.losesAllMembers
  split
  · rename_i members hbody
    simp [hbody]
  · rename_i hbody
    simpa using fun members h => absurd h (hbody members)

theorem fieldLeftovers_eq_nil_iff {field : FieldDefinition} {owner : Name} :
    field.leftovers p owner = [] ↔ ∀ n ∈ field.references, p.hasType n = false := by
  simp [FieldDefinition.leftovers, FieldDefinition.references]

theorem directiveLeftovers_eq_nil_iff {d : DirectiveDefinition} :
    d.leftovers p = [] ↔ ∀ n ∈ d.references, p.hasType n = false := by
  simp [DirectiveDefinition.leftovers, DirectiveDefinition.references]

theorem leftovers_eq_nil_iff : s.leftovers p = [] ↔ p.LeaveNothing s := by
  have hparts : s.leftovers p = [] ↔
      (∀ d ∈ s.keptTypes p, s.losesAllFields p d = false) ∧
      (∀ d ∈ s.keptTypes p, d.losesAllMembers p = false) ∧
      (∀ d ∈ s.keptTypes p, ∀ field ∈ s.keptFields p d, field.leftovers p d.name = []) ∧
      ∀ d ∈ s.directives, d.leftovers p = [] := by
    simp only [leftovers, List.append_eq_nil_iff, List.map_eq_nil_iff, List.filter_eq_nil_iff,
      List.flatMap_eq_nil_iff, Bool.not_eq_true, and_assoc]
  rw [hparts]
  simp only [mem_keptTypes, losesAllFields_eq_false_iff, losesAllMembers_eq_false_iff,
    fieldLeftovers_eq_nil_iff, directiveLeftovers_eq_nil_iff, and_imp]
  constructor
  · rintro ⟨hfields, hmembers, hreferences, hdirectives⟩
    exact ⟨hfields, hmembers, hreferences, hdirectives⟩
  · intro h
    exact ⟨h.fields, h.members, h.references, h.directives⟩

theorem checkLeftovers_eq_ok_iff : s.checkLeftovers p = .ok () ↔ p.LeaveNothing s := by
  rw [← leftovers_eq_nil_iff]
  unfold checkLeftovers
  cases s.leftovers p with
  | nil => exact iff_of_true rfl rfl
  | cons leftover rest => simp

end Leftovers

/-- All that the checks of a renaming ask of a plan. -/
structure Admits (s : Schema) (plan : Plan) (settings : Settings) : Prop extends
  plan.IsPossibleFor s, plan.IsFreeOfConflicts s settings, plan.suppressions.LeaveNothing s

theorem Admits.name_eq (h : s.Admits plan settings) {d e : TypeDefinition} (hd : d ∈ s.types)
    (he : e ∈ s.types) {n : Name} (hdname : plan.newName? d.name = some n)
    (hename : plan.newName? e.name = some n) : d.name = e.name := by
  obtain ⟨hdkept, hdname⟩ := Plan.newName?_eq_some_iff.1 hdname
  obtain ⟨hekept, hename⟩ := Plan.newName?_eq_some_iff.1 hename
  exact h.injective d hd e he hdkept hekept (hdname.trans hename.symm)

end Schema

/-- A document is renamed if it is supported and its schema admits the plan; nothing else can
fail. -/
theorem Document.rename_eq_ok_iff {document : Document} {plan : Plan} {settings : Settings}
    {r : RenamedDocument} :
    document.rename plan settings = .ok r ↔
      ∃ s, document.Supports s ∧ s.Admits plan settings ∧
        r = ⟨plan.applyDocument s.queryType document, s.formerNames plan⟩ := by
  simp only [rename, bind_eq_ok_iff, mapError_eq_ok_iff, supportedSchema_eq_ok_iff, pure_eq_ok_iff]
  constructor
  · rintro ⟨s, hs, ⟨⟩, hplan, ⟨⟩, hconflicts, ⟨⟩, hleftovers, rfl⟩
    exact ⟨s, hs, ⟨(Schema.checkPlan_eq_ok_iff hs.wellFormed).1 hplan,
      Schema.checkConflicts_eq_ok_iff.1 hconflicts,
      Schema.checkLeftovers_eq_ok_iff.1 hleftovers⟩, rfl⟩
  · rintro ⟨s, hs, h, rfl⟩
    exact ⟨s, hs, (), (Schema.checkPlan_eq_ok_iff hs.wellFormed).2 h.toIsPossibleFor, (),
      Schema.checkConflicts_eq_ok_iff.2 h.toIsFreeOfConflicts, (),
      Schema.checkLeftovers_eq_ok_iff.2 h.toLeaveNothing, rfl⟩

/-- What was renamed had a schema that admits the plan. -/
theorem Document.admits_of_rename {document : Document} {s : Schema} {plan : Plan}
    {settings : Settings} {r : RenamedDocument} (hs : document.supportedSchema = .ok s)
    (h : document.rename plan settings = .ok r) :
    document.Supports s ∧ s.Admits plan settings ∧
      r = ⟨plan.applyDocument s.queryType document, s.formerNames plan⟩ := by
  obtain ⟨s', hs', hadmits, hr⟩ := rename_eq_ok_iff.1 h
  rw [supportedSchema_eq_ok_iff.2 hs'] at hs
  obtain rfl : s' = s := Except.ok.inj hs
  exact ⟨hs', hadmits, hr⟩

/-- Two names change places, cats go away with the field that leads to them. -/
def Sample.swap : Plan where
  types := .ofList [("Person", .rename "Dog"), ("Dog", .rename "Person"), ("Cat", .suppress),
    ("Kind", .rename "Size"), ("Query", .rename "Root")]
  fields := .ofList [("Person", .ofList ["cat"])]

end SchemaReshape
