import Mathlib.Data.List.Forall2
import SchemaReshape.Proofs.Rename.FormerNames
import SchemaReshape.Proofs.Rename.Substitution
import SchemaReshape.Proofs.Rename.Validity

/-!
# Scalars under a renaming

A plan that is applied has no entry for a scalar of the schema, so that such a scalar keeps its name
wherever it is referred to and is the former name of nothing. An entry for a scalar of the language
is not looked at by the checks, but followed by references and listed among the former names; it
takes such an entry to rename a scalar (`Document.rename_scalars`).
-/

namespace SchemaReshape

namespace Schema

/-- A reference to a scalar stays as it is unless the plan has an entry that renames this scalar of
the language. -/
def KeepsReference (s : Schema) (plan : Plan) (n m : Name) : Prop :=
  s.NamesScalar n → m = n ∨ n.isBuiltinScalar = true ∧ plan.change? n = some (.rename m)

variable {s : Schema} {plan : Plan} {n : Name}

theorem isBuiltinScalar_of_entry (h : plan.IsPossibleFor s) (hn : s.NamesScalar n)
    (hchange : plan.change? n ≠ none) : n.isBuiltinScalar = true := by
  refine hn.resolve_right ?_
  rintro ⟨d, hd, hscalar, rfl⟩
  exact hchange (h.scalar d hd hscalar)

theorem keepsReference_self : s.KeepsReference plan n n := fun _ => .inl rfl

theorem keepsReference_substitution (h : plan.IsPossibleFor s) :
    s.KeepsReference plan n (plan.substitution n) := by
  intro hn
  rw [← Plan.newName_eq_substitution]
  by_cases hname : plan.newName n = n
  · exact .inl hname
  · have hchange := Plan.change?_of_newName_ne hname
    exact .inr ⟨isBuiltinScalar_of_entry h hn (by simp [hchange]), hchange⟩

end Schema

section References

variable (σ : Name → Name) (queryType : Name)

@[simp] theorem TypeRef.baseName_substitute (t : TypeRef) :
    (t.substitute σ).baseName = σ t.baseName := by
  induction t with
  | named => rfl
  | list _ ih | nonNull _ ih => exact ih

theorem FieldDefinition.references_substitute (owner : Name) (d : FieldDefinition) :
    (d.substitute σ queryType owner).references = d.references.map σ := by
  simp [FieldDefinition.references, FieldDefinition.substitute, InputValueDefinition.substitute]

theorem TypeDefinition.references_substitute (d : TypeDefinition) :
    (d.substitute σ queryType).references = d.references.map σ := by
  obtain ⟨description, name, directives, body⟩ := d
  cases body <;>
    simp [TypeDefinition.references, TypeDefinition.substitute, TypeDefinition.interfaces,
      TypeDefinition.members, TypeDefinition.fields, TypeDefinition.inputFields,
      FieldDefinition.references_substitute, InputValueDefinition.substitute, List.map_flatMap,
      List.flatMap_map]

theorem DirectiveDefinition.references_substitute (d : DirectiveDefinition) :
    (d.substitute σ).references = d.references.map σ := by
  simp [DirectiveDefinition.references, DirectiveDefinition.substitute,
    InputValueDefinition.substitute]

variable {σ} {R : Name → Name → Prop}

theorem forall₂_map_of_forall (h : ∀ n, R n (σ n)) (names : List Name) :
    List.Forall₂ R names (names.map σ) := by
  rw [List.forall₂_map_right_iff, List.forall₂_same]
  exact fun n _ => h n

theorem SchemaDefinition.forall₂_substitute (hself : ∀ n, R n n) (h : ∀ n, R n (σ n))
    (d : SchemaDefinition) : List.Forall₂ R d.roots.toList (d.substitute σ).roots.toList := by
  have hquery : List.Forall₂ R d.roots.query?.toList (d.roots.query?.map σ).toList := by
    cases d.roots.query? with
    | none => exact .nil
    | some n => exact .cons (h n) .nil
  have hrest : ∀ names : List Name, List.Forall₂ R names names := fun names =>
    List.forall₂_same.2 fun n _ => hself n
  exact List.rel_append (List.rel_append hquery (hrest _)) (hrest _)

theorem Definition.forall₂_substitute (hself : ∀ n, R n n) (h : ∀ n, R n (σ n)) (d : Definition) :
    List.Forall₂ R d.references (d.substitute σ queryType).references := by
  have htype : ∀ d : TypeDefinition,
      List.Forall₂ R d.references (d.substitute σ queryType).references := by
    intro d
    rw [TypeDefinition.references_substitute]
    exact forall₂_map_of_forall h d.references
  cases d with
  | schema d => exact d.forall₂_substitute hself h
  | type d => exact htype d
  | directive d =>
    change List.Forall₂ R d.references (d.substitute σ).references
    rw [DirectiveDefinition.references_substitute]
    exact forall₂_map_of_forall h d.references
  | extension d =>
    cases d with
    | schema d => exact d.forall₂_substitute hself h
    | type d => exact htype d
  | operation | fragment => exact .nil

end References

variable {document : Document} {s : Schema} {plan : Plan} {settings : Settings}

/-- What is left of the definitions refers to scalars as before, each reference in its place. -/
theorem Document.forall₂_applyDefinitions (hs : document.Supports s)
    (h : plan.IsPossibleFor s) :
    List.Forall₂ (fun d e => List.Forall₂ (s.KeepsReference plan) d.references e.references)
      (document.definitions.filterMap (·.withoutSuppressed plan s.queryType))
      (plan.applyDefinitions s.queryType document.definitions) := by
  rw [Plan.applyDefinitions_eq_map hs h, List.forall₂_map_right_iff, List.forall₂_same]
  intro d _
  exact d.forall₂_substitute s.queryType (fun _ => Schema.keepsReference_self)
    fun _ => Schema.keepsReference_substitution h

/-- An applied plan has no entry for a scalar of the schema, and so none for any scalar unless it
has one for a scalar of the language. What is left of the definitions refers to the same scalars in
the same places, and no scalar is a former name, but for those of the language that the plan
renames. -/
theorem Document.rename_scalars {r : RenamedDocument} (hs : document.supportedSchema = .ok s)
    (h : document.rename plan settings = .ok r) :
    (∀ d ∈ s.types, d.isScalar = true → plan.change? d.name = none) ∧
    ((∀ n, s.NamesScalar n → plan.change? n = none) ↔ plan.SparesBuiltins) ∧
    (∃ front rest, r.document.definitions = front ++ rest ∧
      (∀ e ∈ front, e.schema?.isSome = true) ∧
      List.Forall₂ (fun d e => List.Forall₂ (s.KeepsReference plan) d.references e.references)
        (document.definitions.filterMap (·.withoutSuppressed plan s.queryType))
        rest) ∧
    ∀ m n, r.formerNames.get? m = some n → s.NamesScalar n →
      n.isBuiltinScalar = true ∧ plan.change? n = some (.rename m) := by
  obtain ⟨hs, hadmits, rfl⟩ := admits_of_rename hs h
  refine ⟨hadmits.scalar, ⟨fun hnone n hn => hnone n (.inl hn), fun hspares n hn => ?_⟩, ?_, ?_⟩
  · by_contra hchange
    exact hchange (hspares n (Schema.isBuiltinScalar_of_entry hadmits.toIsPossibleFor hn hchange))
  · refine ⟨_, _, rfl, ?_, forall₂_applyDefinitions hs hadmits.toIsPossibleFor⟩
    rw [Plan.rootDefinition_eq]
    split
    · exact (List.forall_mem_singleton ..).2 rfl
    · exact nofun
  · intro m n hformer hn
    obtain ⟨hchange, -⟩ := Schema.entry_of_get?_formerNames hformer
    have hbuiltin := Schema.isBuiltinScalar_of_entry hadmits.toIsPossibleFor hn (by simp [hchange])
    exact ⟨hbuiltin, hchange⟩

theorem Sample.rename_scalars_pets : ∃ s r,
    pets.supportedSchema = .ok s ∧ pets.rename swap .standard = .ok r ∧
    (∀ d ∈ s.types, d.isScalar = true → swap.change? d.name = none) ∧
    ((∀ n, s.NamesScalar n → swap.change? n = none) ↔ swap.SparesBuiltins) ∧
    (∃ front rest, r.document.definitions = front ++ rest ∧
      (∀ e ∈ front, e.schema?.isSome = true) ∧
      List.Forall₂ (fun d e => List.Forall₂ (s.KeepsReference swap) d.references e.references)
        (pets.definitions.filterMap (·.withoutSuppressed swap s.queryType)) rest) ∧
    ∀ m n, r.formerNames.get? m = some n → s.NamesScalar n →
      n.isBuiltinScalar = true ∧ swap.change? n = some (.rename m) :=
  ⟨_, _, rfl, rfl, Document.rename_scalars rfl
    (show pets.rename swap .standard = .ok _ from rfl)⟩

/-- One scalar of the language takes the place of another. -/
theorem Sample.rename_builtin_scalar : ∃ r,
    (queryOf "String").rename (.ofList [("String", .rename "ID")]) .standard = .ok r ∧
      r.document = queryOf "ID" ∧ r.formerNames.get? "ID" = some "String" :=
  ⟨_, rfl, rfl, rfl⟩

end SchemaReshape
