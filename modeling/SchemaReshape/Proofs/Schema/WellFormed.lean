import SchemaReshape.Proofs.Check
import SchemaReshape.Proofs.Document.References
import SchemaReshape.Schema.Build
import Mathlib.Data.List.Nodup

/-!
# Well-formed schemas

`Schema.WellFormed` says what the checks of `Schema.build` ask for, without their order: distinct
names, root types that are objects, and references that lead to definitions of the right kind.
A document builds a schema exactly if the schema lists its definitions and roots and is well formed
(`Schema.build_eq_ok_iff`).
-/

namespace SchemaReshape

open Check

theorem TypeDefinition.checkNames_eq_ok_iff {seen : List Name} {ds : List TypeDefinition} :
    TypeDefinition.checkNames seen ds = .ok () ↔
      (∀ d ∈ ds, d.name.isBuiltinScalar = false ∧ d.name ∉ seen) ∧ (ds.map (·.name)).Nodup := by
  induction ds generalizing seen with
  | nil => simp [checkNames]
  | cons d ds ih =>
    simp only [checkNames, ite_throw_else_eq_ok_iff, ih, List.contains_iff_mem, List.mem_cons,
      List.map_cons, List.nodup_cons, List.mem_map, forall_eq_or_imp]
    grind

theorem DirectiveDefinition.checkNames_eq_ok_iff {seen : List Name}
    {ds : List DirectiveDefinition} :
    DirectiveDefinition.checkNames seen ds = .ok () ↔
      (∀ d ∈ ds, d.name ∉ seen) ∧ (ds.map (·.name)).Nodup := by
  induction ds generalizing seen with
  | nil => simp [checkNames]
  | cons d ds ih =>
    simp only [checkNames, ite_throw_else_eq_ok_iff, ih, List.contains_iff_mem, List.mem_cons,
      List.map_cons, List.nodup_cons, List.mem_map, forall_eq_or_imp]
    grind

namespace TypeDefinition

variable (d : TypeDefinition)

theorem fields_eq_nil_of_isScalar (h : d.isScalar = true) : d.fields = [] := by
  obtain ⟨description, name, directives, body⟩ := d
  cases body with
  | scalar => rfl
  | _ => exact nomatch h

theorem isScalar_eq_false_of_hasFields (h : d.isObject = true ∨ d.isInterface = true) :
    d.isScalar = false := by
  obtain ⟨description, name, directives, body⟩ := d
  cases body with
  | scalar => rcases h with h | h <;> exact nomatch h
  | _ => rfl

end TypeDefinition

namespace Schema

variable (s : Schema)

def roots : RootTypes := ⟨some s.queryType, s.mutationType?, s.subscriptionType?⟩

/-- Interfaces and members are types of these kinds; all else that the type refers to is defined. -/
structure Resolves (d : TypeDefinition) : Prop where
  interfaces : ∀ n ∈ d.interfaces, ∃ t, s.type? n = some t ∧ t.isInterface = true
  members : ∀ n ∈ d.members, ∃ t, s.type? n = some t ∧ t.isObject = true
  fields : ∀ field ∈ d.fields, ∀ n ∈ field.references, s.isDefined n = true
  inputFields : ∀ field ∈ d.inputFields, s.isDefined field.type.baseName = true

structure WellFormed : Prop where
  types_nodup : (s.types.map (·.name)).Nodup
  types_not_builtin : ∀ d ∈ s.types, d.name.isBuiltinScalar = false
  directives_nodup : (s.directives.map (·.name)).Nodup
  roots_object : ∀ n ∈ s.roots.toList, ∃ t, s.type? n = some t ∧ t.isObject = true
  types_resolve : ∀ d ∈ s.types, s.Resolves d
  directives_resolve : ∀ d ∈ s.directives, ∀ n ∈ d.references, s.isDefined n = true

variable {s}

theorem WellFormed.queryType_object (h : s.WellFormed) :
    ∃ t, s.type? s.queryType = some t ∧ t.isObject = true :=
  h.roots_object s.queryType (by simp [roots, RootTypes.toList])

theorem checkRoot_eq_ok_iff {kind : OperationKind} {root? : Option Name} :
    s.checkRoot kind root? = .ok () ↔
      ∀ n ∈ root?, ∃ t, s.type? n = some t ∧ t.isObject = true := by
  cases root? with
  | none => simp [checkRoot]
  | some name => cases h : s.type? name <;> simp [checkRoot, h]

theorem checkReference_eq_ok_iff {type : TypeRef} {place : ReferencePlace} :
    s.checkReference type place = .ok () ↔ s.isDefined type.baseName = true := by
  simp [checkReference]

theorem checkInterface_eq_ok_iff {type interface : Name} :
    s.checkInterface type interface = .ok () ↔
      ∃ t, s.type? interface = some t ∧ t.isInterface = true := by
  cases h : s.type? interface <;> simp [checkInterface, h]

theorem checkMember_eq_ok_iff {union member : Name} :
    s.checkMember union member = .ok () ↔ ∃ t, s.type? member = some t ∧ t.isObject = true := by
  cases h : s.type? member <;> simp [checkMember, h]

theorem checkField_eq_ok_iff {owner : Name} {field : FieldDefinition} :
    s.checkField owner field = .ok () ↔ ∀ n ∈ field.references, s.isDefined n = true := by
  simp [checkField, checkReference_eq_ok_iff, FieldDefinition.references]

theorem checkDirective_eq_ok_iff {d : DirectiveDefinition} :
    s.checkDirective d = .ok () ↔ ∀ n ∈ d.references, s.isDefined n = true := by
  simp [checkDirective, checkReference_eq_ok_iff, DirectiveDefinition.references]

theorem checkType_eq_ok_iff {d : TypeDefinition} : s.checkType d = .ok () ↔ s.Resolves d := by
  have hfields : s.checkType d = .ok () ↔ s.checkBody d = .ok () ∧
      ∀ field ∈ d.fields, ∀ n ∈ field.references, s.isDefined n = true := by
    simp only [checkType, List.forM_eq_forM, bind_unit_eq_ok_iff, forM_eq_ok_iff,
      checkField_eq_ok_iff]
  have hbody : s.checkBody d = .ok () ↔
      (∀ n ∈ d.interfaces, ∃ t, s.type? n = some t ∧ t.isInterface = true) ∧
      (∀ n ∈ d.members, ∃ t, s.type? n = some t ∧ t.isObject = true) ∧
      ∀ field ∈ d.inputFields, s.isDefined field.type.baseName = true := by
    obtain ⟨description, name, directives, body⟩ := d
    cases body <;>
      simp [checkBody, TypeDefinition.interfaces, TypeDefinition.members,
        TypeDefinition.inputFields, checkInterface_eq_ok_iff, checkMember_eq_ok_iff,
        checkReference_eq_ok_iff]
  rw [hfields, hbody]
  constructor
  · rintro ⟨⟨hinterfaces, hmembers, hinputs⟩, hfields⟩
    exact ⟨hinterfaces, hmembers, hfields, hinputs⟩
  · intro h
    exact ⟨⟨h.interfaces, h.members, h.inputFields⟩, h.fields⟩

theorem checkReferences_eq_ok_iff :
    s.checkReferences = .ok () ↔ (∀ d ∈ s.types, s.Resolves d) ∧
      ∀ d ∈ s.directives, ∀ n ∈ d.references, s.isDefined n = true := by
  simp [checkReferences, checkType_eq_ok_iff, checkDirective_eq_ok_iff]

theorem forall_roots_iff {P : Name → Prop} :
    (∀ n ∈ s.roots.toList, P n) ↔
      (∀ n ∈ some s.queryType, P n) ∧ (∀ n ∈ s.mutationType?, P n) ∧
        ∀ n ∈ s.subscriptionType?, P n := by
  simp [roots, RootTypes.toList, or_imp, forall_and]

/-- A document builds the schema of its own definitions and roots, if that is well formed. -/
theorem build_eq_ok_iff {document : Document} :
    Schema.build document = .ok s ↔
      s.types = document.types ∧ s.directives = document.directives ∧
        document.roots = s.roots ∧ s.WellFormed := by
  simp only [build, bind_unit_eq_ok_iff, TypeDefinition.checkNames_eq_ok_iff,
    DirectiveDefinition.checkNames_eq_ok_iff, List.not_mem_nil, not_false_eq_true, and_true]
  obtain ⟨query?, mutation?, subscription?⟩ := document.roots
  cases query? with
  | none => simp [roots]
  | some queryType =>
    simp only [bind_unit_eq_ok_iff, checkRoot_eq_ok_iff, checkReferences_eq_ok_iff, pure_eq_ok_iff]
    constructor
    · rintro ⟨⟨hbuiltin, htypes⟩, ⟨-, hdirectives⟩, hquery, hmutation, hsubscription,
        ⟨hresolve, hdresolve⟩, rfl⟩
      exact ⟨rfl, rfl, rfl, htypes, hbuiltin, hdirectives,
        forall_roots_iff.2 ⟨hquery, hmutation, hsubscription⟩, hresolve, hdresolve⟩
    · rintro ⟨htypes, hdirectives, hroots, h⟩
      obtain ⟨types, directives, query, mutation?', subscription?'⟩ := s
      cases hroots
      cases htypes
      cases hdirectives
      obtain ⟨hquery, hmutation, hsubscription⟩ := forall_roots_iff.1 h.roots_object
      exact ⟨⟨h.types_not_builtin, h.types_nodup⟩, ⟨fun _ _ => trivial, h.directives_nodup⟩, hquery,
        hmutation, hsubscription, ⟨h.types_resolve, h.directives_resolve⟩, rfl⟩

theorem find?_eq_some_iff_of_nodup {α : Type} {name : α → Name} {ds : List α}
    (h : (ds.map name).Nodup) {n : Name} {d : α} :
    ds.find? (name · == n) = some d ↔ d ∈ ds ∧ name d = n := by
  constructor
  · intro hd
    exact ⟨List.mem_of_find?_eq_some hd, by simpa using List.find?_some hd⟩
  · rintro ⟨hd, rfl⟩
    cases hfind : ds.find? (name · == name d) with
    | none => simpa using List.find?_eq_none.1 hfind d hd
    | some e =>
      have he : name e = name d := by simpa using List.find?_some hfind
      rw [List.inj_on_of_nodup_map h (List.mem_of_find?_eq_some hfind) hd he]

theorem mem_types_of_type? {n : Name} {d : TypeDefinition} (h : s.type? n = some d) :
    d ∈ s.types := List.mem_of_find?_eq_some h

theorem name_eq_of_type? {n : Name} {d : TypeDefinition} (h : s.type? n = some d) :
    d.name = n := by
  simpa using List.find?_some h

theorem type?_eq_some_iff (h : (s.types.map (·.name)).Nodup) {n : Name} {d : TypeDefinition} :
    s.type? n = some d ↔ d ∈ s.types ∧ d.name = n :=
  find?_eq_some_iff_of_nodup h

theorem directive?_eq_some_iff (h : (s.directives.map (·.name)).Nodup) {n : Name}
    {d : DirectiveDefinition} : s.directive? n = some d ↔ d ∈ s.directives ∧ d.name = n :=
  find?_eq_some_iff_of_nodup h

/-- A type is known by its name. -/
theorem WellFormed.eq_of_name_eq (h : s.WellFormed) {d e : TypeDefinition} (hd : d ∈ s.types)
    (he : e ∈ s.types) (hname : d.name = e.name) : d = e :=
  List.inj_on_of_nodup_map h.types_nodup hd he hname

/-- The definition of the query type. -/
theorem WellFormed.exists_queryType (h : s.WellFormed) :
    ∃ t ∈ s.types, t.name = s.queryType ∧ t.isObject = true := by
  obtain ⟨t, ht, hobject⟩ := h.queryType_object
  obtain ⟨hmem, hname⟩ := (type?_eq_some_iff h.types_nodup).1 ht
  exact ⟨t, hmem, hname, hobject⟩

theorem WellFormed.exists_queryDefinition (h : s.WellFormed) :
    ∃ t, s.queryDefinition? = some t ∧ t ∈ s.types := by
  obtain ⟨t, ht, -⟩ := h.queryType_object
  exact ⟨t, ht, mem_types_of_type? ht⟩

section QueryType

variable (h : s.WellFormed) {d : TypeDefinition} (hd : d ∈ s.types) (hname : d.name = s.queryType)

include h hd hname

theorem WellFormed.isObject_of_queryType : d.isObject = true := by
  obtain ⟨t, ht, htname, hobject⟩ := h.exists_queryType
  obtain rfl : d = t := h.eq_of_name_eq hd ht (hname.trans htname.symm)
  exact hobject

theorem WellFormed.isScalar_eq_false_of_queryType : d.isScalar = false :=
  d.isScalar_eq_false_of_hasFields (.inl (h.isObject_of_queryType hd hname))

end QueryType

theorem isDefined_iff {n : Name} :
    s.isDefined n = true ↔ n.isBuiltinScalar = true ∨ ∃ d ∈ s.types, d.name = n := by
  rw [isDefined, Bool.or_eq_true, type?, List.find?_isSome]
  simp only [beq_iff_eq]

theorem isDefined_of_mem {d : TypeDefinition} (hd : d ∈ s.types) : s.isDefined d.name = true :=
  isDefined_iff.2 (.inr ⟨d, hd, rfl⟩)

theorem isDefined_of_type? {n : Name} {d : TypeDefinition} (h : s.type? n = some d) :
    s.isDefined n = true := by
  rw [isDefined, h]
  exact Bool.or_true _

section Resolves

variable {d : TypeDefinition} (h : s.Resolves d) {n : Name}

include h

theorem Resolves.isDefined_interface (hn : n ∈ d.interfaces) : s.isDefined n = true := by
  obtain ⟨t, ht, -⟩ := h.interfaces n hn
  exact isDefined_of_type? ht

theorem Resolves.isDefined_member (hn : n ∈ d.members) : s.isDefined n = true := by
  obtain ⟨t, ht, -⟩ := h.members n hn
  exact isDefined_of_type? ht

end Resolves

theorem WellFormed.isDefined_queryType (h : s.WellFormed) : s.isDefined s.queryType = true := by
  obtain ⟨t, ht, -⟩ := h.queryType_object
  exact isDefined_of_type? ht

theorem WellFormed.type?_eq_none_of_builtin (h : s.WellFormed) {n : Name}
    (hn : n.isBuiltinScalar = true) : s.type? n = none := by
  refine List.find?_eq_none.2 fun d hd hname => ?_
  obtain rfl : d.name = n := by simpa using hname
  rw [h.types_not_builtin d hd] at hn
  cases hn

/-- A scalar of the language or one that the schema defines. -/
def NamesScalar (s : Schema) (n : Name) : Prop :=
  n.isBuiltinScalar = true ∨ ∃ d ∈ s.types, d.isScalar = true ∧ d.name = n

/-- A scalar that is defined is found as one; a scalar of the language is not found at all. -/
theorem WellFormed.namesScalar_iff (h : s.WellFormed) {n : Name} :
    s.NamesScalar n ↔ (∃ d, s.type? n = some d ∧ d.isScalar = true) ∨
      s.type? n = none ∧ n.isBuiltinScalar = true := by
  unfold NamesScalar
  simp only [type?_eq_some_iff h.types_nodup]
  constructor
  · intro hn
    rcases hn with hbuiltin | ⟨d, hd, hscalar, hname⟩
    · exact .inr ⟨h.type?_eq_none_of_builtin hbuiltin, hbuiltin⟩
    · exact .inl ⟨d, ⟨hd, hname⟩, hscalar⟩
  · intro hn
    rcases hn with ⟨d, ⟨hd, hname⟩, hscalar⟩ | ⟨-, hbuiltin⟩
    · exact .inr ⟨d, hd, hscalar, hname⟩
    · exact .inl hbuiltin

section PossibleTypes

variable {n m : Name}

theorem mem_implementers : m ∈ s.implementers n ↔
    ∃ d ∈ s.types, d.isObject = true ∧ n ∈ d.interfaces ∧ d.name = m := by
  simp [implementers, and_assoc]

theorem mem_possibleTypes : m ∈ s.possibleTypes n ↔
    ∃ d, s.type? n = some d ∧ (d.isObject = true ∧ m = d.name ∨
      d.isInterface = true ∧ m ∈ s.implementers d.name ∨ m ∈ d.members) := by
  unfold possibleTypes
  cases s.type? n with
  | none => simp
  | some d =>
    obtain ⟨description, name, directives, body⟩ := d
    cases body <;>
      simp [SortedSet.mem_ofList, TypeDefinition.isObject, TypeDefinition.isInterface,
        TypeDefinition.members]

end PossibleTypes

end Schema

end SchemaReshape
