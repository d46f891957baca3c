import SchemaReshape.Proofs.Rename.RenamedSchema

/-!
# Former names

The former names of a renamed document, read as a relation: a plan that a schema admits gives no
name twice, so that no entry of `Schema.formerNames` is lost and they are the inverse of the new
names (`Schema.get?_formerNames_iff`).
-/

namespace SchemaReshape

/-- The name before the renaming of a type of the renamed document. -/
def RenamedDocument.formerName (r : RenamedDocument) (n : Name) : Name :=
  (r.formerNames.get? n).getD n

/-- No entry is for a scalar of the language. -/
def Plan.SparesBuiltins (plan : Plan) : Prop :=
  ∀ n, n.isBuiltinScalar = true → plan.change? n = none

namespace Plan

instance (plan : Plan) : Decidable plan.SparesBuiltins :=
  decidable_of_iff (∀ n ∈ Name.builtinScalars, plan.change? n = none)
    (forall_congr' fun _ => imp_congr_left List.contains_iff_mem.symm)

variable {plan : Plan} {n m : Name}

theorem SparesBuiltins.newName?_eq (h : plan.SparesBuiltins) (hn : n.isBuiltinScalar = true) :
    plan.newName? n = some n := by
  rw [newName?, h n hn]

theorem SparesBuiltins.newName_eq (h : plan.SparesBuiltins) (hn : n.isBuiltinScalar = true) :
    plan.newName n = n := newName_eq_of_change?_eq_none (h n hn)

theorem newName?_eq_some_of_rename (h : plan.change? n = some (.rename m)) :
    plan.newName? n = some m := by
  rw [newName?, h]

theorem change?_eq_rename_iff (hne : m ≠ n) :
    plan.change? n = some (.rename m) ↔ plan.newName? n = some m := by
  refine ⟨newName?_eq_some_of_rename, fun h => ?_⟩
  obtain ⟨-, rfl⟩ := newName?_eq_some_iff.1 h
  exact change?_of_newName_ne hne

end Plan

namespace Schema

variable {s : Schema} {plan : Plan} {n m : Name}

theorem mem_formerNames_entries :
    (m, n) ∈ (plan.types.toList.filterMap fun e =>
      match e.2 with
      | .rename newName => if newName != e.1 && s.isDefined e.1 then some (newName, e.1) else none
      | .suppress => none) ↔
      plan.change? n = some (.rename m) ∧ m ≠ n ∧ s.isDefined n = true := by
  rw [List.mem_filterMap]
  constructor
  · rintro ⟨⟨k, change⟩, hmem, he⟩
    cases change with
    | suppress => cases he
    | rename newName =>
      simp only [Option.ite_none_right_eq_some, Bool.and_eq_true, bne_iff_ne, Option.some.injEq,
        Prod.mk.injEq] at he
      obtain ⟨⟨hne, hdefined⟩, rfl, rfl⟩ := he
      exact ⟨SortedMap.mem_toList_iff.1 hmem, hne, hdefined⟩
  · rintro ⟨hchange, hne, hdefined⟩
    refine ⟨(n, .rename m), SortedMap.mem_toList_iff.2 hchange, ?_⟩
    simp [hne, hdefined]

theorem entry_of_get?_formerNames (h : (s.formerNames plan).get? m = some n) :
    plan.change? n = some (.rename m) ∧ m ≠ n ∧ s.isDefined n = true :=
  mem_formerNames_entries.1 (SortedMap.mem_of_get?_ofList h)

variable {settings : Settings}

/-- The types of a new name have one name, so that each is found under its new name. -/
theorem get?_formerNames_iff (h : s.Admits plan settings) (hspares : plan.SparesBuiltins) :
    (s.formerNames plan).get? m = some n ↔
      (∃ d ∈ s.types, d.name = n) ∧ plan.newName? n = some m ∧ m ≠ n := by
  have hentry : ∀ {m n}, plan.change? n = some (.rename m) ∧ m ≠ n ∧ s.isDefined n = true ↔
      (∃ d ∈ s.types, d.name = n) ∧ plan.newName? n = some m ∧ m ≠ n := by
    intro m n
    constructor
    · rintro ⟨hchange, hne, hdefined⟩
      refine ⟨?_, Plan.newName?_eq_some_of_rename hchange, hne⟩
      refine (isDefined_iff.1 hdefined).resolve_left fun hbuiltin => ?_
      rw [hspares n hbuiltin] at hchange
      cases hchange
    · rintro ⟨htype, hname, hne⟩
      exact ⟨(Plan.change?_eq_rename_iff hne).2 hname, hne, isDefined_iff.2 (.inr htype)⟩
  refine (SortedMap.get?_ofList_eq_some_iff ?_).trans (mem_formerNames_entries.trans hentry)
  rintro ⟨k, a⟩ hp ⟨_, b⟩ hq rfl
  obtain ⟨⟨d, hd, rfl⟩, hdname, -⟩ := hentry.1 (mem_formerNames_entries.1 hp)
  obtain ⟨⟨e, he, rfl⟩, hename, -⟩ := hentry.1 (mem_formerNames_entries.1 hq)
  exact h.name_eq hd he hdname hename

theorem get?_formerNames_eq_none (h : s.Admits plan settings) (hspares : plan.SparesBuiltins)
    {d : TypeDefinition} (hd : d ∈ s.types) (hname : plan.newName? d.name = some d.name) :
    (s.formerNames plan).get? d.name = none := by
  refine Option.eq_none_iff_forall_ne_some.2 fun n hformer => ?_
  obtain ⟨⟨e, he, rfl⟩, hename, hne⟩ := (get?_formerNames_iff h hspares).1 hformer
  exact hne (h.name_eq hd he hname hename)

/-- From its new name every type is found back. -/
theorem getD_formerNames (h : s.Admits plan settings) (hspares : plan.SparesBuiltins)
    {d : TypeDefinition} (hd : d ∈ s.types) (hname : plan.newName? d.name = some m) :
    ((s.formerNames plan).get? m).getD m = d.name := by
  by_cases hne : m = d.name
  · rw [hne] at hname ⊢
    rw [get?_formerNames_eq_none h hspares hd hname, Option.getD_none]
  · rw [(get?_formerNames_iff h hspares).2 ⟨⟨d, hd, rfl⟩, hname, hne⟩, Option.getD_some]

end Schema

end SchemaReshape
