import Mathlib.Data.List.ProdSigma
import SchemaReshape.Proofs.Rename.Guards

/-!
# Reports of conflicts

The new names of the types are gathered one after the other, and what is told in the end is every
conflict that there is: each name with all of the types that would share it, and each type that
would take the name of a built-in scalar. A report is told if and only if it has something to tell
(`Schema.conflicts_complete`).
-/

namespace SchemaReshape

/-- The type of the schema stays, and this is its name under the plan. -/
def Plan.GivesName (plan : Plan) (s : Schema) (type newName : Name) : Prop :=
  (∃ d ∈ s.types, d.name = type) ∧ plan.newName? type = some newName

namespace Schema

variable {s : Schema} {plan : Plan} {settings : Settings} {t n : Name}

theorem mem_renamedTypes_iff_givesName :
    (n, t) ∈ s.renamedTypes plan ↔ plan.GivesName s t n := by
  simp only [renamedTypes, List.mem_filterMap, Option.map_eq_some_iff, Prod.mk.injEq]
  constructor
  · rintro ⟨d, hd, m, hname, rfl, rfl⟩
    exact ⟨⟨d, hd, rfl⟩, hname⟩
  · rintro ⟨⟨d, hd, rfl⟩, hname⟩
    exact ⟨d, hd, n, hname, rfl, rfl⟩

theorem get?_shared_eq_some_iff {types : NameSet} :
    (s.conflicts plan settings).shared.get? n = some types ↔
      (∃ t t', t ≠ t' ∧ plan.GivesName s t n ∧ plan.GivesName s t' n) ∧
        ∀ t, t ∈ types ↔ plan.GivesName s t n := by
  rw [conflicts, SortedMap.get?_filter_group_eq_some_iff]
  simp only [mem_renamedTypes_iff_givesName]

theorem exists_get?_shared_iff :
    (∃ types, (s.conflicts plan settings).shared.get? n = some types) ↔
      ∃ t t', t ≠ t' ∧ plan.GivesName s t n ∧ plan.GivesName s t' n := by
  rw [conflicts, SortedMap.exists_get?_filter_group_iff]
  simp only [mem_renamedTypes_iff_givesName]

theorem get?_builtin_eq_some_iff :
    (s.conflicts plan settings).builtin.get? t = some n ↔
      plan.GivesName s t n ∧ n ≠ t ∧ settings.isBuiltinScalar n = true := by
  have hentry : ∀ {t n}, (t, n) ∈ ((s.renamedTypes plan).filter fun p =>
      p.1 != p.2 && settings.isBuiltinScalar p.1).map Prod.swap ↔
        plan.GivesName s t n ∧ n ≠ t ∧ settings.isBuiltinScalar n = true := by
    intro t n
    rw [List.mem_map_swap, List.mem_filter, mem_renamedTypes_iff_givesName, Bool.and_eq_true,
      bne_iff_ne]
  refine (SortedMap.get?_ofList_eq_some_iff ?_).trans hentry
  rintro ⟨t, n⟩ hn ⟨_, m⟩ hm rfl
  obtain ⟨⟨-, hname⟩, -⟩ := hentry.1 hn
  obtain ⟨⟨-, hname'⟩, -⟩ := hentry.1 hm
  exact Option.some.inj (hname.symm.trans hname')

theorem isFreeOfConflicts_iff_givesName :
    plan.IsFreeOfConflicts s settings ↔
      (∀ t t' n, plan.GivesName s t n → plan.GivesName s t' n → t = t') ∧
        ∀ t n, plan.GivesName s t n → n ≠ t → settings.isBuiltinScalar n = false := by
  constructor
  · intro h
    constructor
    · rintro _ _ n ⟨⟨d, hd, rfl⟩, hdname⟩ ⟨⟨e, he, rfl⟩, hename⟩
      obtain ⟨hdkept, hdname⟩ := Plan.newName?_eq_some_iff.1 hdname
      obtain ⟨hekept, hename⟩ := Plan.newName?_eq_some_iff.1 hename
      exact h.injective d hd e he hdkept hekept (hdname.trans hename.symm)
    · rintro _ _ ⟨⟨d, hd, rfl⟩, hname⟩ hne
      obtain ⟨hkept, rfl⟩ := Plan.newName?_eq_some_iff.1 hname
      exact h.not_builtin d hd hkept hne
  · rintro ⟨hinjective, hbuiltin⟩
    refine ⟨fun d hd e he hdkept hekept hname => ?_, fun d hd hkept hne => ?_⟩
    · have hdname := Plan.newName?_eq_some_iff.2 ⟨hdkept, hname⟩
      have hename := Plan.newName?_eq_some_iff.2 ⟨hekept, rfl⟩
      exact hinjective d.name e.name _ ⟨⟨d, hd, rfl⟩, hdname⟩ ⟨⟨e, he, rfl⟩, hename⟩
    · have hname := Plan.newName?_eq_some_iff.2 ⟨hkept, rfl⟩
      exact hbuiltin d.name _ ⟨⟨d, hd, rfl⟩, hname⟩ hne

theorem checkConflicts_eq_error_iff {report : NameConflicts} :
    s.checkConflicts plan settings = .error report ↔
      report = s.conflicts plan settings ∧ report.isClean = false := by
  have hcheck : s.checkConflicts plan settings =
      if (s.conflicts plan settings).isClean then .ok () else .error (s.conflicts plan settings) :=
    rfl
  rw [hcheck]
  cases hclean : (s.conflicts plan settings).isClean with
  | true =>
    rw [if_pos rfl]
    constructor
    · rintro ⟨⟩
    · rintro ⟨rfl, hnot⟩
      rw [hclean] at hnot
      cases hnot
  | false =>
    rw [if_neg Bool.false_ne_true]
    constructor
    · rintro ⟨⟩
      exact ⟨rfl, hclean⟩
    · rintro ⟨rfl, -⟩
      rfl

/-- The report of a renaming is exact: under each name that several types would have, it lists all
of these, and it pairs a type with a built-in scalar if that is where the type would move to. The
check passes if the new names are different and no type moves to a built-in scalar; if not, it fails
with the whole report, which is not clean then. -/
theorem conflicts_complete (s : Schema) (plan : Plan) (settings : Settings) :
    (∀ n, (∃ types, (s.conflicts plan settings).shared.get? n = some types) ↔
      ∃ t t', t ≠ t' ∧ plan.GivesName s t n ∧ plan.GivesName s t' n) ∧
    (∀ n types, (s.conflicts plan settings).shared.get? n = some types →
      ∀ t, t ∈ types ↔ plan.GivesName s t n) ∧
    (∀ t n, (s.conflicts plan settings).builtin.get? t = some n ↔
      plan.GivesName s t n ∧ n ≠ t ∧ settings.isBuiltinScalar n = true) ∧
    (s.checkConflicts plan settings = .ok () ↔
      (∀ t t' n, plan.GivesName s t n → plan.GivesName s t' n → t = t') ∧
        ∀ t n, plan.GivesName s t n → n ≠ t → settings.isBuiltinScalar n = false) ∧
    ∀ report, s.checkConflicts plan settings = .error report →
      report = s.conflicts plan settings ∧ report.isClean = false := by
  refine ⟨fun n => exists_get?_shared_iff, fun n types htypes => ?_,
    fun t n => get?_builtin_eq_some_iff, ?_, fun report => checkConflicts_eq_error_iff.1⟩
  · exact (get?_shared_eq_some_iff.1 htypes).2
  · rw [checkConflicts_eq_ok_iff, isFreeOfConflicts_iff_givesName]

end Schema

end SchemaReshape
