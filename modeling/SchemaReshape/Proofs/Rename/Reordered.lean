import SchemaReshape.Proofs.Rename.Guards
import SchemaReshape.Proofs.Schema.Reordered

/-!
# Renaming definitions in another order

What the checks of a plan ask of a schema they ask of each type and each directive, so that it does
not matter in which order conflicts and leftovers are searched for. The definitions of the outcome
come in the order of the document, and former names are listed by new names
(`Document.rename_reordered`).
-/

namespace SchemaReshape

namespace Schema.Reorders

variable {s t : Schema} (h : s.Reorders t) {plan : Plan} {settings : Settings}

include h

theorem isPossibleFor (hs : plan.IsPossibleFor s) : plan.IsPossibleFor t where
  scalar d hd := hs.scalar d (h.types.mem_iff.2 hd)
  newName d hd := hs.newName d (h.types.mem_iff.2 hd)
  queryType := h.queryType_eq ▸ hs.queryType

theorem isFreeOfConflicts (hs : plan.IsFreeOfConflicts s settings) :
    plan.IsFreeOfConflicts t settings where
  injective d hd e he := hs.injective d (h.types.mem_iff.2 hd) e (h.types.mem_iff.2 he)
  not_builtin d hd := hs.not_builtin d (h.types.mem_iff.2 hd)

theorem keptFields_eq (p : Suppressions) (d : TypeDefinition) :
    s.keptFields p d = t.keptFields p d := by
  rw [keptFields, keptFields, h.queryType_eq]

theorem leaveNothing {p : Suppressions} (hs : p.LeaveNothing s) : p.LeaveNothing t where
  fields d hd := h.keptFields_eq p d ▸ hs.fields d (h.types.mem_iff.2 hd)
  members d hd := hs.members d (h.types.mem_iff.2 hd)
  references d hd := h.keptFields_eq p d ▸ hs.references d (h.types.mem_iff.2 hd)
  directives d hd := hs.directives d (h.directives.mem_iff.2 hd)

theorem admits (hs : s.Admits plan settings) : t.Admits plan settings :=
  ⟨h.isPossibleFor hs.toIsPossibleFor, h.isFreeOfConflicts hs.toIsFreeOfConflicts,
    h.leaveNothing hs.toLeaveNothing⟩

theorem formerNames_eq (plan : Plan) : s.formerNames plan = t.formerNames plan := by
  simp only [formerNames, h.isDefined_eq]

end Schema.Reorders

variable {x y : Document}

/-- A definition is looked for among all of them before one is put in front. -/
theorem Plan.applyDocument_perm (plan : Plan) (queryType : Name)
    (hperm : x.definitions.Perm y.definitions) :
    (plan.applyDocument queryType x).definitions.Perm
      (plan.applyDocument queryType y).definitions := by
  have hdefinitions : (plan.applyDefinitions queryType x.definitions).Perm
      (plan.applyDefinitions queryType y.definitions) := hperm.filterMap _
  have hroot : plan.rootDefinition queryType (plan.applyDefinitions queryType x.definitions) =
      plan.rootDefinition queryType (plan.applyDefinitions queryType y.definitions) := by
    rw [rootDefinition, rootDefinition, hdefinitions.any_eq]
  rw [applyDocument, applyDocument, hroot]
  exact hdefinitions.append_left _

namespace Document

variable (hperm : x.definitions.Perm y.definitions) (hschemas : x.schemas.length ≤ 1)
variable {plan : Plan} {settings : Settings}

include hperm hschemas

/-- A document that can be renamed can be renamed in another order, with the same outcome apart from
the order. -/
theorem exists_rename_of_perm {r : RenamedDocument} (h : x.rename plan settings = .ok r) :
    ∃ r', y.rename plan settings = .ok r' ∧
      r.document.definitions.Perm r'.document.definitions ∧ r.formerNames = r'.formerNames := by
  obtain ⟨s, hs, hadmits, rfl⟩ := rename_eq_ok_iff.1 h
  obtain ⟨t, ht, hreorders⟩ := hs.reordered hperm hschemas
  refine ⟨_, rename_eq_ok_iff.2 ⟨t, ht, hreorders.admits hadmits, rfl⟩, ?_,
    hreorders.formerNames_eq plan⟩
  rw [hreorders.queryType_eq]
  exact plan.applyDocument_perm t.queryType hperm

theorem exists_supportedSchema_of_perm {s : Schema} (hs : x.supportedSchema = .ok s) :
    ∃ t, y.supportedSchema = .ok t := by
  obtain ⟨t, ht, -⟩ := (supportedSchema_eq_ok_iff.1 hs).reordered hperm hschemas
  exact ⟨t, supportedSchema_eq_ok_iff.2 ht⟩

end Document

/-- The order of the definitions of a document with at most one schema definition decides neither
whether it is supported nor whether it can be renamed, and in the outcome it decides the order of
the definitions only. -/
theorem Document.rename_reordered {x y : Document} (hperm : x.definitions.Perm y.definitions)
    (hschemas : x.schemas.length ≤ 1) (plan : Plan) (settings : Settings) :
    ((∃ s, x.supportedSchema = .ok s) ↔ ∃ s, y.supportedSchema = .ok s) ∧
    ((∃ r, x.rename plan settings = .ok r) ↔ ∃ r, y.rename plan settings = .ok r) ∧
    ∀ r r', x.rename plan settings = .ok r → y.rename plan settings = .ok r' →
      r.document.definitions.Perm r'.document.definitions ∧ r.formerNames = r'.formerNames := by
  have hschemas' : y.schemas.length ≤ 1 := schemas_eq_of_perm hperm hschemas ▸ hschemas
  refine ⟨⟨?_, ?_⟩, ⟨?_, ?_⟩, fun r r' hr hr' => ?_⟩
  · rintro ⟨s, hs⟩
    exact exists_supportedSchema_of_perm hperm hschemas hs
  · rintro ⟨s, hs⟩
    exact exists_supportedSchema_of_perm hperm.symm hschemas' hs
  · rintro ⟨r, hr⟩
    obtain ⟨r', hr', -⟩ := exists_rename_of_perm hperm hschemas hr
    exact ⟨r', hr'⟩
  · rintro ⟨r, hr⟩
    obtain ⟨r', hr', -⟩ := exists_rename_of_perm hperm.symm hschemas' hr
    exact ⟨r', hr'⟩
  · obtain ⟨r'', hr'', hsame⟩ := exists_rename_of_perm hperm hschemas hr
    obtain rfl : r'' = r' := Except.ok.inj (hr''.symm.trans hr')
    exact hsame

def Sample.petsBackwards : Document := ⟨pets.definitions.reverse⟩

theorem Sample.rename_petsBackwards :
    pets.definitions.Perm petsBackwards.definitions ∧ pets.schemas.length ≤ 1 ∧
    (∃ r, pets.rename swap .standard = .ok r) ∧
    ((∃ s, pets.supportedSchema = .ok s) ↔ ∃ s, petsBackwards.supportedSchema = .ok s) ∧
    ((∃ r, pets.rename swap .standard = .ok r) ↔
      ∃ r, petsBackwards.rename swap .standard = .ok r) ∧
    ∀ r r', pets.rename swap .standard = .ok r → petsBackwards.rename swap .standard = .ok r' →
      r.document.definitions.Perm r'.document.definitions ∧ r.formerNames = r'.formerNames :=
  have hperm := (List.reverse_perm pets.definitions).symm
  ⟨hperm, by decide, ⟨_, rfl⟩, Document.rename_reordered hperm (by decide) swap .standard⟩

end SchemaReshape
