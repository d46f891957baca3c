import SchemaReshape.Proofs.Rename.RenamedSchema

/-!
# Leftovers and what a suppression makes of a document

The analysis of leftovers reads the schema; the suppression itself is carried out on the definitions
of the document. `Plan.LeavesClosed` is a property of the outcome alone: nothing in it refers to a
suppressed type, no type has lost its last field and no union is empty. For a plan that renames
nothing the analysis finds no leftovers exactly if the outcome is closed
(`Document.checkLeftovers_eq_ok_iff_leavesClosed`).
-/

namespace SchemaReshape

namespace Plan

/-- No entry gives a type another name. -/
def OnlySuppresses (plan : Plan) : Prop := ∀ n m, plan.change? n ≠ some (.rename m)

namespace OnlySuppresses

theorem empty : OnlySuppresses ∅ := fun _ _ => nofun

variable {plan : Plan}

theorem suppressType (h : plan.OnlySuppresses) (type : Name) :
    (plan.suppressType type).OnlySuppresses := by
  intro n m
  rw [Plan.suppressType, change?_setType]
  by_cases hn : n = type
  · rw [if_pos hn]
    exact nofun
  · rw [if_neg hn]
    exact h n m

theorem suppressField (h : plan.OnlySuppresses) (type field : Name) :
    (plan.suppressField type field).OnlySuppresses := h

end OnlySuppresses

/-- The definitions can do without what the plan takes out of them. -/
structure LeavesClosed (plan : Plan) (queryType : Name) (ds : List Definition) : Prop where
  references : ∀ e ∈ plan.applyDefinitions queryType ds, ∀ n ∈ e.references,
    plan.change? n ≠ some .suppress
  fields : ∀ d, .type d ∈ ds → ∀ e, plan.applyDefinition queryType (.type d) = some (.type e) →
    d.fields ≠ [] → e.fields ≠ []
  members : ∀ e, .type e ∈ plan.applyDefinitions queryType ds → ∀ members,
    e.body = .union members → members ≠ []

variable {plan : Plan} {queryType : Name}

theorem newName_of_onlySuppresses (h : plan.OnlySuppresses) (n : Name) : plan.newName n = n := by
  unfold newName newName?
  cases hchange : plan.change? n with
  | none => rfl
  | some change =>
    cases change with
    | rename m => exact absurd hchange (h n m)
    | suppress => rfl

section Identity

variable (h : plan.OnlySuppresses)

include h

theorem applyInput_of_onlySuppresses : plan.applyInput = id := by
  funext d
  have htype := plan.applyRef_eq_self (newName_of_onlySuppresses h d.type.baseName)
  rw [applyInput, htype]
  rfl

theorem applyField_of_onlySuppresses (named : Bool) : plan.applyField named = id := by
  funext field
  have htype := plan.applyRef_eq_self (newName_of_onlySuppresses h field.type.baseName)
  rw [applyField_eq_mk, htype, applyInput_of_onlySuppresses h, List.map_id,
    newName_of_onlySuppresses h, ite_self]
  rfl

theorem applyDirective_of_onlySuppresses (d : DirectiveDefinition) : plan.applyDirective d = d := by
  rw [applyDirective, applyInput_of_onlySuppresses h, List.map_id]

theorem applySchema_of_onlySuppresses (d : SchemaDefinition) : plan.applySchema d = d := by
  obtain ⟨directives, query?, mutation?, subscription?⟩ := d
  cases query? with
  | none => rfl
  | some n => rw [applySchema, Option.map_some, applyName_eq, newName_of_onlySuppresses h]

end Identity

theorem suppresses_eq_false_iff {n : Name} :
    plan.suppresses n = false ↔ plan.change? n ≠ some .suppress := by
  rw [← Bool.not_eq_true, suppresses_iff]

theorem union_applyType_iff {d : TypeDefinition} {names : List Name} :
    (plan.applyType queryType d).body = .union names ↔
      ∃ members, d.body = .union members ∧ plan.applyNames members = names := by
  obtain ⟨description, name, directives, body⟩ := d
  cases body <;> simp [body_applyType, applyBody]

theorem applyNames_ne_nil_iff {names : List Name} :
    plan.applyNames names ≠ [] ↔ ∃ n ∈ names, plan.suppresses n = false := by
  rw [← List.length_pos_iff, List.length_pos_iff_exists_mem]
  simp only [mem_applyNames]
  constructor
  · rintro ⟨-, n, hn, hkept, rfl⟩
    exact ⟨n, hn, hkept⟩
  · rintro ⟨n, hn, hkept⟩
    exact ⟨_, n, hn, hkept, rfl⟩

variable {document : Document} {s : Schema}

theorem type_mem_applyDefinitions_iff (hs : document.Supports s) {e : TypeDefinition} :
    .type e ∈ plan.applyDefinitions s.queryType document.definitions ↔
      ∃ d ∈ s.types, plan.suppresses d.name = false ∧ plan.applyType s.queryType d = e := by
  have hmem : e ∈ (Document.mk (plan.applyDefinitions s.queryType document.definitions)).types ↔
      .type e ∈ plan.applyDefinitions s.queryType document.definitions := Document.mem_types
  rw [← hmem, Document.types, types_applyDefinitions, ← Document.types, ← hs.types,
    ← Schema.mem_types_renamed]
  rfl

theorem not_suppresses_root (hs : document.Supports s) (hschemas : document.schemas.length ≤ 1)
    (honly : plan.OnlySuppresses) (hquery : plan.change? s.queryType ≠ some .suppress) :
    ∀ d ∈ document.schemas, ∀ n ∈ (plan.applySchema d).roots.toList,
      plan.change? n ≠ some .suppress := by
  intro d hd n hn
  have hroots := hs.roots_eq_of_mem_schemas hschemas hd
  obtain rfl : n = s.queryType := by
    simpa [applySchema, hroots, RootTypes.toList, newName_of_onlySuppresses honly] using hn
  exact hquery

/-- What a type still refers to is suppressed only at its fields. -/
theorem references_applyType_iff (hs : document.Supports s) (honly : plan.OnlySuppresses)
    {d : TypeDefinition} (hd : d ∈ s.types) :
    (∀ n ∈ (plan.applyType s.queryType d).references, plan.change? n ≠ some .suppress) ↔
      ∀ field ∈ s.keptFields plan.suppressions d, ∀ n ∈ field.references,
        plan.suppresses n = false := by
  have hnames : ∀ names, ∀ n ∈ plan.applyNames names, plan.suppresses n = false := by
    intro names n hn
    obtain ⟨m, -, hkept, rfl⟩ := plan.mem_applyNames.1 hn
    rwa [newName_of_onlySuppresses honly]
  have hinputs := (hs.types_supported d hd).inputFields_eq_nil
  simp only [TypeDefinition.references, ← suppresses_eq_false_iff, List.forall_mem_append,
    interfaces_applyType, members_applyType, Schema.fields_applyType_eq, inputFields_applyType,
    hinputs, applyField_of_onlySuppresses honly, List.map_id, List.forall_mem_flatMap,
    List.map_nil]
  exact ⟨fun h => h.1.2, fun h => ⟨⟨⟨hnames _, hnames _⟩, h⟩, List.forall_mem_nil _⟩⟩

theorem references_applyDirective_iff (honly : plan.OnlySuppresses) {d : DirectiveDefinition} :
    (∀ n ∈ (plan.applyDirective d).references, plan.change? n ≠ some .suppress) ↔
      ∀ n ∈ d.references, plan.suppresses n = false := by
  simp only [applyDirective_of_onlySuppresses honly, suppresses_eq_false_iff]

theorem references_applyDefinitions_iff (hs : document.Supports s)
    (hschemas : document.schemas.length ≤ 1) (honly : plan.OnlySuppresses)
    (hquery : plan.change? s.queryType ≠ some .suppress) :
    (∀ e ∈ plan.applyDefinitions s.queryType document.definitions, ∀ n ∈ e.references,
      plan.change? n ≠ some .suppress) ↔
        (∀ d ∈ s.types, plan.suppresses d.name = false →
          ∀ field ∈ s.keptFields plan.suppressions d, ∀ n ∈ field.references,
            plan.suppresses n = false) ∧
        ∀ d ∈ s.directives, ∀ n ∈ d.references, plan.suppresses n = false := by
  rw [forall_applyDefinitions_iff hs]
  refine Iff.trans (and_iff_right (not_suppresses_root hs hschemas honly hquery)) ?_
  refine and_congr (forall₃_congr fun d hd _ => references_applyType_iff hs honly hd) ?_
  exact forall₂_congr fun d _ => references_applyDirective_iff honly

theorem fields_applyDefinitions_iff (plan : Plan) (hs : document.Supports s) :
    (∀ d, .type d ∈ document.definitions → ∀ e,
      plan.applyDefinition s.queryType (.type d) = some (.type e) → d.fields ≠ [] →
        e.fields ≠ []) ↔
      ∀ d ∈ s.types, plan.suppresses d.name = false → d.fields ≠ [] →
        s.keptFields plan.suppressions d ≠ [] := by
  rw [hs.types]
  simp only [← Document.mem_types, applyDefinition_type_eq_some_iff, Definition.type.injEq]
  refine forall₂_congr fun d _ => ?_
  have hempty : (plan.applyType s.queryType d).fields = [] ↔
      s.keptFields plan.suppressions d = [] := by
    rw [Schema.fields_applyType_eq, List.map_eq_nil_iff]
  constructor
  · intro h hkept hne hnone
    exact h _ ⟨hkept, rfl⟩ hne (hempty.2 hnone)
  · rintro h e ⟨hkept, rfl⟩ hne hnone
    exact h hkept hne (hempty.1 hnone)

theorem members_applyDefinitions_iff (plan : Plan) (hs : document.Supports s) :
    (∀ e, .type e ∈ plan.applyDefinitions s.queryType document.definitions → ∀ members,
      e.body = .union members → members ≠ []) ↔
      ∀ d ∈ s.types, plan.suppresses d.name = false → ∀ members, d.body = .union members →
        ∃ n ∈ members, plan.suppresses n = false := by
  simp only [type_mem_applyDefinitions_iff hs, ← applyNames_ne_nil_iff]
  constructor
  · intro h d hd hkept members hbody
    exact h _ ⟨d, hd, hkept, rfl⟩ _ (union_applyType_iff.2 ⟨members, hbody, rfl⟩)
  · rintro h e ⟨d, hd, hkept, rfl⟩ names hbody
    obtain ⟨members, hmembers, rfl⟩ := union_applyType_iff.1 hbody
    exact h d hd hkept members hmembers

theorem leavesClosed_iff (hs : document.Supports s) (hschemas : document.schemas.length ≤ 1)
    (honly : plan.OnlySuppresses) (hquery : plan.change? s.queryType ≠ some .suppress) :
    plan.LeavesClosed s.queryType document.definitions ↔ plan.suppressions.LeaveNothing s := by
  have hreferences := references_applyDefinitions_iff hs hschemas honly hquery
  have hfields := fields_applyDefinitions_iff plan hs
  have hmembers := members_applyDefinitions_iff plan hs
  simp only [← hasType_suppressions_eq] at hreferences hfields hmembers
  constructor
  · intro h
    obtain ⟨htypes, hdirectives⟩ := hreferences.1 h.references
    exact ⟨hfields.1 h.fields, hmembers.1 h.members, htypes, hdirectives⟩
  · intro h
    exact ⟨hreferences.2 ⟨h.references, h.directives⟩, hfields.2 h.fields, hmembers.2 h.members⟩

end Plan

/-- The analysis of leftovers and the suppression have the same idea of what stays. -/
theorem Document.checkLeftovers_eq_ok_iff_leavesClosed {document : Document} {s : Schema}
    {plan : Plan} (hs : document.supportedSchema = .ok s) (hschemas : document.schemas.length ≤ 1)
    (honly : plan.OnlySuppresses) (hquery : plan.change? s.queryType ≠ some .suppress) :
    s.checkLeftovers plan.suppressions = .ok () ↔
      plan.LeavesClosed s.queryType document.definitions := by
  rw [Schema.checkLeftovers_eq_ok_iff,
    Plan.leavesClosed_iff (supportedSchema_eq_ok_iff.1 hs) hschemas honly hquery]

def Sample.noCats : Plan := ((∅ : Plan).suppressType "Cat").suppressField "Person" "cat"

theorem Sample.checkLeftovers_pets : ∃ s, pets.supportedSchema = .ok s ∧
    pets.schemas.length ≤ 1 ∧ noCats.OnlySuppresses ∧ noCats.change? s.queryType ≠ some .suppress ∧
      (s.checkLeftovers noCats.suppressions = .ok () ↔
        noCats.LeavesClosed s.queryType pets.definitions) :=
  have honly : noCats.OnlySuppresses :=
    (Plan.OnlySuppresses.empty.suppressType "Cat").suppressField "Person" "cat"
  ⟨_, rfl, by decide, honly, by decide,
    Document.checkLeftovers_eq_ok_iff_leavesClosed rfl (by decide) honly (by decide)⟩

end SchemaReshape
