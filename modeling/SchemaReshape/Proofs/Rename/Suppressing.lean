import SchemaReshape.Proofs.Query.Narrowing
import SchemaReshape.Proofs.Rename.Leftovers
import SchemaReshape.Proofs.Rename.Validity

/-!
# Queries after a suppression

A plan that renames nothing makes of a schema a part of it (`Schema.isPartOf_renamed`), and the
document that it leaves is supported again, so that the schema can be built from it. What was
refused before is therefore refused afterwards (`Document.accepted_of_suppression`): a query that is
valid on the smaller schema, or can be split on it, is so on the whole schema as well.
-/

namespace SchemaReshape

namespace Plan

variable {plan : Plan}

theorem applyNames_subset (h : plan.OnlySuppresses) (names : List Name) :
    plan.applyNames names ⊆ names := by
  intro m hm
  obtain ⟨n, hn, -, rfl⟩ := plan.mem_applyNames.1 hm
  rwa [newName_of_onlySuppresses h]

end Plan

namespace Schema

variable {s : Schema} {plan : Plan}

/-- Whether a field is kept is a matter of its name, so that the first field of a name stays the
first one. -/
theorem find?_keptFields (p : Suppressions) (d : TypeDefinition) (n : Name) :
    (s.keptFields p d).find? (·.name == n) =
      if p.keepsField s.queryType d.name n then d.field? n else none := by
  rw [keptFields, List.find?_filter, TypeDefinition.field?]
  by_cases hkept : p.keepsField s.queryType d.name n = true
  · rw [if_pos hkept]
    congr 1
    funext field
    by_cases hname : field.name = n <;> simp [hname, hkept]
  · rw [if_neg hkept, List.find?_eq_none]
    rintro field - hfield
    obtain ⟨hfieldKept, hname⟩ : p.keepsField s.queryType d.name field.name = true ∧
        field.name = n := by simpa using hfield
    exact hkept (hname ▸ hfieldKept)

theorem field?_applyType (honly : plan.OnlySuppresses) (d : TypeDefinition) (n : Name) :
    (plan.applyType s.queryType d).field? n =
      if plan.suppressions.keepsField s.queryType d.name n then d.field? n else none := by
  rw [TypeDefinition.field?, fields_applyType_eq, Plan.applyField_of_onlySuppresses honly,
    List.map_id, find?_keptFields]

variable {document : Document} {settings : Settings}
variable (hs : document.Supports s) (h : s.Admits plan settings) (honly : plan.OnlySuppresses)

include hs h honly

theorem isPartOf_applyType {d : TypeDefinition} (hd : d ∈ s.types) :
    (plan.applyType s.queryType d).IsPartOf d where
  name := by rw [name_applyType hs h hd, Plan.newName_of_onlySuppresses honly]
  kind := plan.kind_applyType s.queryType d
  interfaces := by
    rw [Plan.interfaces_applyType]
    exact Plan.applyNames_subset honly d.interfaces
  members := by
    rw [Plan.members_applyType]
    exact Plan.applyNames_subset honly d.members
  field? := by
    intro n field hfield
    rw [field?_applyType honly, Option.ite_none_right_eq_some] at hfield
    exact hfield.2

/-- What a suppression leaves of a schema is a part of it. -/
theorem isPartOf_renamed : (s.renamed plan).IsPartOf s where
  queryType := Plan.newName_of_onlySuppresses honly s.queryType
  directives := by
    rw [renamed, funext (Plan.applyDirective_of_onlySuppresses honly)]
    exact List.map_id s.directives
  types := by
    intro e he
    obtain ⟨d, hd, -, rfl⟩ := mem_types_renamed.1 he
    exact ⟨d, hd, isPartOf_applyType hs h honly hd⟩

omit hs h in
theorem keepsScalars_of_onlySuppresses : s.KeepsScalars plan := by
  intro n _ hbuiltin
  rw [Plan.newName_of_onlySuppresses honly]
  exact .inl hbuiltin

omit h in
theorem keepsRoots_of_onlySuppresses : document.KeepsRoots s plan := by
  intro hschemas _ d hd
  obtain ⟨hmutation, hsubscription⟩ := (Document.names_of_schemas_eq_nil hs hschemas).2 d hd
  simp only [Ne, Plan.newName?_eq_some_iff, Plan.newName_of_onlySuppresses honly]
  exact ⟨fun h => hmutation h.2, fun h => hsubscription h.2⟩

end Schema

namespace Document

variable {document : Document} {s : Schema} {plan : Plan} {settings : Settings}

theorem supports_applyDocument_of_onlySuppresses (hs : document.Supports s)
    (h : s.Admits plan settings) (honly : plan.OnlySuppresses) :
    (plan.applyDocument s.queryType document).Supports (s.renamed plan) := by
  obtain ⟨s', hs'⟩ := (supports_applyDocument_iff hs h).2
    ⟨Schema.keepsScalars_of_onlySuppresses honly, Schema.keepsRoots_of_onlySuppresses hs honly⟩
  obtain rfl := eq_renamed_of_supports hs h hs'
  exact hs'

/-- A suppression makes no query acceptable: what is valid on the schema that is left, or can be
split on it, was so before. -/
theorem accepted_of_suppression {r : RenamedDocument} (hs : document.supportedSchema = .ok s)
    (honly : plan.OnlySuppresses) (h : document.rename plan settings = .ok r) :
    ∃ s', Schema.build r.document = .ok s' ∧ ∀ query,
      (s'.checkQuery query = .ok () → s.checkQuery query = .ok ()) ∧
      ∀ settings, s'.checkSplittable query settings = .ok () →
        s.checkSplittable query settings = .ok () := by
  obtain ⟨hsupports, hadmits, rfl⟩ := admits_of_rename hs h
  have hs' := supports_applyDocument_of_onlySuppresses hsupports hadmits honly
  have hpart := Schema.isPartOf_renamed hsupports hadmits honly
  have hbuild : Schema.build (plan.applyDocument s.queryType document) = .ok (s.renamed plan) :=
    Schema.build_eq_ok_iff.2 ⟨hs'.types, hs'.directives, hs'.roots, hs'.wellFormed⟩
  refine ⟨s.renamed plan, hbuild, fun query => ⟨?_, fun settings' => ?_⟩⟩
  · exact Schema.checkQuery_of_isPartOf hpart hsupports.wellFormed
  · exact Schema.checkSplittable_of_isPartOf hpart hsupports.wellFormed

end Document

theorem Sample.accepted_noCats : ∃ s r, pets.supportedSchema = .ok s ∧ noCats.OnlySuppresses ∧
    pets.rename noCats .standard = .ok r ∧
    ∃ s', Schema.build r.document = .ok s' ∧ ∀ query,
      (s'.checkQuery query = .ok () → s.checkQuery query = .ok ()) ∧
      ∀ settings, s'.checkSplittable query settings = .ok () →
        s.checkSplittable query settings = .ok () :=
  have honly : noCats.OnlySuppresses :=
    (Plan.OnlySuppresses.empty.suppressType "Cat").suppressField "Person" "cat"
  have hrename : pets.rename noCats .standard = .ok _ := rfl
  ⟨_, _, rfl, honly, hrename, Document.accepted_of_suppression rfl honly hrename⟩

end SchemaReshape
