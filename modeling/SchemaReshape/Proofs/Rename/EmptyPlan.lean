import SchemaReshape.Proofs.Rename.Leftovers

/-!
# The plan without entries

A plan that suppresses nothing leaves nothing behind, apart from the unions that had no members
before (`Suppressions.leftovers_of_isEmpty`). The plan without entries makes of every document the
same document and passes every check but that of the leftovers, so that it is refused exactly where
there is such a union (`Document.rename_empty`).
-/

namespace SchemaReshape

/-- The unions that have no members to begin with. -/
def Schema.emptyUnions (s : Schema) : List TypeDefinition :=
  s.types.filter fun d => d.body = .union []

namespace Suppressions

variable {p : Suppressions}

theorem isEmpty_iff : p.isEmpty = true ↔
    (∀ n, p.hasType n = false) ∧ ∀ n m, p.hasField n m = false := by
  have hfields : (∀ names ∈ p.fields.values, names.isEmpty = true) ↔
      ∀ n m, p.hasField n m = false := by
    simp only [SortedMap.mem_values_iff, SortedSet.isEmpty_iff, hasField, fieldsOf]
    constructor
    · intro h n m
      cases hnames : p.fields.get? n with
      | none => rfl
      | some names => exact Bool.eq_false_iff.2 (h names ⟨n, hnames⟩ m)
    · rintro h names ⟨n, hnames⟩ m hm
      have hnot := h n m
      rw [hnames, Option.getD_some, SortedSet.mem_iff.1 hm] at hnot
      cases hnot
  rw [isEmpty, Bool.and_eq_true, List.all_eq_true, hfields, SortedSet.isEmpty_iff]
  exact and_congr_left' (forall_congr' fun n => (Bool.eq_false_iff (b := p.hasType n)).symm)

variable (h : p.isEmpty = true)

include h

theorem keepsField_of_isEmpty (queryType type field : Name) :
    p.keepsField queryType type field = true := by
  obtain ⟨htypes, hfields⟩ := isEmpty_iff.1 h
  simp [keepsField, htypes, hfields]

theorem keptFields_of_isEmpty (s : Schema) (d : TypeDefinition) : s.keptFields p d = d.fields :=
  List.filter_eq_self.2 fun field _ => keepsField_of_isEmpty h s.queryType d.name field.name

theorem losesAllMembers_of_isEmpty (d : TypeDefinition) :
    d.losesAllMembers p = decide (d.body = .union []) := by
  obtain ⟨htypes, -⟩ := isEmpty_iff.1 h
  unfold TypeDefinition.losesAllMembers
  split
  · rename_i members hbody
    cases members <;> simp [hbody, htypes]
  · rename_i hbody
    simpa using hbody []

/-- Where nothing is suppressed, the unions that are empty are the only leftovers. -/
theorem leftovers_of_isEmpty (s : Schema) :
    s.leftovers p = s.emptyUnions.map fun d => .unionWithoutMembers d.name := by
  obtain ⟨htypes, -⟩ := isEmpty_iff.1 h
  have hkept : s.keptTypes p = s.types := List.filter_eq_self.2 fun d _ => by rw [htypes]; rfl
  have hfields : s.types.filter (s.losesAllFields p) = [] := by
    refine List.filter_eq_nil_iff.2 fun d _ => ?_
    rw [Schema.losesAllFields, keptFields_of_isEmpty h, Bool.not_and_self]
    exact Bool.false_ne_true
  have hunions : s.types.filter (·.losesAllMembers p) = s.emptyUnions :=
    List.filter_congr fun d _ => losesAllMembers_of_isEmpty h d
  have hreferences : s.types.flatMap (fun d =>
      (s.keptFields p d).flatMap (·.leftovers p d.name)) = [] :=
    List.flatMap_eq_nil_iff.2 fun d _ => List.flatMap_eq_nil_iff.2 fun field _ =>
      Schema.fieldLeftovers_eq_nil_iff.2 fun n _ => htypes n
  have hdirectives : s.directives.flatMap (·.leftovers p) = [] :=
    List.flatMap_eq_nil_iff.2 fun d _ =>
      Schema.directiveLeftovers_eq_nil_iff.2 fun n _ => htypes n
  unfold Schema.leftovers
  simp only [hkept, hfields, hunions, hreferences, hdirectives, List.map_nil, List.nil_append,
    List.append_nil]

theorem leaveNothing_iff_of_isEmpty {s : Schema} : p.LeaveNothing s ↔ s.emptyUnions = [] := by
  rw [← Schema.leftovers_eq_nil_iff, leftovers_of_isEmpty h, List.map_eq_nil_iff]

end Suppressions

namespace Plan

theorem newName?_of_isEmpty {plan : Plan} (h : plan.suppressions.isEmpty = true) (n : Name) :
    plan.newName? n = some (plan.newName n) := by
  have hkept := (Suppressions.isEmpty_iff.1 h).1 n
  rw [hasType_suppressions_eq] at hkept
  exact newName?_eq_some_iff.2 ⟨hkept, rfl⟩

section Empty

@[simp] theorem newName?_empty (n : Name) : (∅ : Plan).newName? n = some n := rfl

@[simp] theorem newName_empty (n : Name) : (∅ : Plan).newName n = n := rfl

theorem isEmpty_suppressions_empty : (∅ : Plan).suppressions.isEmpty = true := rfl

@[simp] theorem applyNames_empty (names : List Name) : (∅ : Plan).applyNames names = names :=
  ((∅ : Plan).applyNames_eq_filterMap names).trans List.filterMap_some

@[simp] theorem applyFields_empty (queryType type : Name) (fields : List FieldDefinition) :
    (∅ : Plan).applyFields queryType type fields = fields := by
  simp [applyFields, applyField_of_onlySuppresses .empty,
    Suppressions.keepsField_of_isEmpty isEmpty_suppressions_empty]

@[simp] theorem applyType_empty (queryType : Name) (d : TypeDefinition) :
    (∅ : Plan).applyType queryType d = d := by
  obtain ⟨description, name, directives, body⟩ := d
  cases body <;>
    simp [applyType_eq_mk, applyBody, newDefinitionName, applyInput_of_onlySuppresses .empty]

theorem applyDefinitions_empty (queryType : Name) (ds : List Definition) :
    (∅ : Plan).applyDefinitions queryType ds = ds := by
  have hsame : ∀ d, (∅ : Plan).applyDefinition queryType d = some d := by
    intro d
    cases d with
    | schema d => rw [applyDefinition, applySchema_of_onlySuppresses .empty]
    | type d => simp [applyDefinition, suppresses_eq_isNone]
    | directive d => rw [applyDefinition, applyDirective_of_onlySuppresses .empty]
    | extension | operation | fragment => rfl
  rw [applyDefinitions, funext hsame]
  exact List.filterMap_some

theorem applyDocument_empty (queryType : Name) (document : Document) :
    (∅ : Plan).applyDocument queryType document = document := by
  have hadded : ∀ ds, (∅ : Plan).rootDefinition queryType ds = [] := by
    intro ds
    rw [rootDefinition, newName_empty, beq_self_eq_true, Bool.or_true, if_pos rfl]
  rw [applyDocument, applyDefinitions_empty, hadded, List.nil_append]

end Empty

end Plan

namespace Schema

variable {s : Schema}

theorem isPossibleFor_empty : (∅ : Plan).IsPossibleFor s :=
  ⟨fun _ _ _ => rfl, fun _ _ _ => nofun, nofun⟩

theorem isFreeOfConflicts_empty (settings : Settings) :
    (∅ : Plan).IsFreeOfConflicts s settings :=
  ⟨fun _ _ _ _ _ _ hname => hname, fun _ _ _ hname => absurd rfl hname⟩

theorem isClean_conflicts_empty (settings : Settings) :
    (s.conflicts ∅ settings).isClean = true := by
  have hfree := isFreeOfConflicts_empty (s := s) settings
  rw [NameConflicts.isClean, Bool.and_eq_true, isEmpty_shared_iff, isEmpty_builtin_iff]
  exact ⟨hfree.injective, hfree.not_builtin⟩

theorem checkConflicts_empty (settings : Settings) : s.checkConflicts ∅ settings = .ok () :=
  checkConflicts_eq_ok_iff.2 (isFreeOfConflicts_empty settings)

theorem checkLeftovers_of_ne_nil {p : Suppressions} (h : s.leftovers p ≠ []) :
    s.checkLeftovers p = .error (s.leftovers p) := by
  unfold checkLeftovers
  cases hleftovers : s.leftovers p with
  | nil => exact absurd hleftovers h
  | cons leftover rest => rfl

theorem admits_empty (settings : Settings) (hunions : s.emptyUnions = []) :
    s.Admits ∅ settings :=
  ⟨isPossibleFor_empty, isFreeOfConflicts_empty settings,
    (Suppressions.leaveNothing_iff_of_isEmpty Plan.isEmpty_suppressions_empty).2 hunions⟩

end Schema

/-- The plan without entries gives the document back, unless a union has no members: then each such
union is told as a leftover of it. -/
theorem Document.rename_empty {document : Document} {s : Schema}
    (hs : document.supportedSchema = .ok s) (settings : Settings) :
    (s.conflicts ∅ settings).isClean = true ∧
      s.leftovers ∅ = s.emptyUnions.map (fun d => .unionWithoutMembers d.name) ∧
      document.rename ∅ settings =
        if s.emptyUnions = [] then .ok ⟨document, ∅⟩ else .error (.leftovers (s.leftovers ∅)) := by
  have hleftovers : s.leftovers ∅ = s.emptyUnions.map (fun d => .unionWithoutMembers d.name) :=
    Suppressions.leftovers_of_isEmpty Plan.isEmpty_suppressions_empty s
  refine ⟨Schema.isClean_conflicts_empty settings, hleftovers, ?_⟩
  by_cases hunions : s.emptyUnions = []
  · rw [if_pos hunions, rename_eq_ok_iff]
    refine ⟨s, supportedSchema_eq_ok_iff.1 hs, Schema.admits_empty settings hunions, ?_⟩
    rw [Plan.applyDocument_empty]
    rfl
  · have hne : s.leftovers ∅ ≠ [] := by
      rw [hleftovers]
      exact fun hnil => hunions (List.map_eq_nil_iff.1 hnil)
    rw [if_neg hunions, rename, hs]
    -- The check of the entries has nothing to do.
    change ((s.checkConflicts ∅ settings).mapError RenameFault.conflicts >>= _) = _
    rw [Schema.checkConflicts_empty]
    change ((s.checkLeftovers ∅).mapError RenameFault.leftovers >>= _) = _
    rw [Schema.checkLeftovers_of_ne_nil hne]
    rfl

theorem Sample.rename_pets_empty : ∃ s, pets.supportedSchema = .ok s ∧
    (s.conflicts ∅ .standard).isClean = true ∧
      s.leftovers ∅ = s.emptyUnions.map (fun d => .unionWithoutMembers d.name) ∧
      pets.rename ∅ .standard =
        if s.emptyUnions = [] then .ok ⟨pets, ∅⟩ else .error (.leftovers (s.leftovers ∅)) :=
  ⟨_, rfl, Document.rename_empty rfl .standard⟩

def Sample.memberless : Document :=
  ⟨[.type ⟨none, "Query", [], .object [] [field "A" (.named "A")]⟩,
    .type ⟨none, "A", [], .object [] [field "x" (.named "Int")]⟩,
    .type ⟨none, "U", [], .union []⟩]⟩

theorem Sample.rename_memberless : (∃ s, memberless.supportedSchema = .ok s) ∧
    memberless.rename ∅ .standard = .error (.leftovers [.unionWithoutMembers "U"]) :=
  ⟨⟨_, rfl⟩, rfl⟩

end SchemaReshape
