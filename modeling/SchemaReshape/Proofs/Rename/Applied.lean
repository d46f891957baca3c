import SchemaReshape.Proofs.Rename.Guards

/-!
# The definitions of a renamed document

A renamed document by kinds of definitions: its schema definitions and directives are those of the
document under the plan, its types are the types that stay. The definition that stands in front for
a query type of another name counts among the schema definitions.
-/

namespace SchemaReshape

namespace Plan

variable (plan : Plan) (queryType : Name)

def applyType? (d : TypeDefinition) : Option TypeDefinition :=
  if plan.suppresses d.name then none else some (plan.applyType queryType d)

theorem applyType?_eq_some_iff {d e : TypeDefinition} :
    plan.applyType? queryType d = some e ↔
      plan.suppresses d.name = false ∧ plan.applyType queryType d = e := by
  unfold applyType?
  cases plan.suppresses d.name <;> simp

theorem applyDefinition_type (d : TypeDefinition) :
    plan.applyDefinition queryType (.type d) = (plan.applyType? queryType d).map .type := by
  rw [applyDefinition, applyType?]
  cases plan.suppresses d.name <;> rfl

theorem applyDefinition_type_eq_some_iff {d : TypeDefinition} {e : Definition} :
    plan.applyDefinition queryType (.type d) = some e ↔
      plan.suppresses d.name = false ∧ .type (plan.applyType queryType d) = e := by
  rw [applyDefinition]
  cases plan.suppresses d.name <;> simp

section Unchanged

/-! What keeps its name is passed on as it is. Each time this is what the renaming would have made
of it. -/

@[simp] theorem applyName_eq (n : Name) : plan.applyName n = plan.newName n :=
  ite_eq_right_iff.2 Eq.symm

theorem mem_applyNames {types : List Name} {m : Name} :
    m ∈ plan.applyNames types ↔ ∃ n ∈ types, plan.suppresses n = false ∧ plan.newName n = m := by
  simp [applyNames, and_assoc]

theorem applyNames_eq_filterMap (types : List Name) :
    plan.applyNames types = types.filterMap plan.newName? := by
  rw [applyNames, ← List.filterMap_eq_filter, List.map_filterMap]
  refine List.filterMap_congr fun n _ => ?_
  cases hname : plan.newName? n with
  | none => simp [suppresses_eq_isNone, Option.guard, hname]
  | some m =>
    obtain ⟨hkept, rfl⟩ := newName?_eq_some_iff.1 hname
    simp [Option.guard, hkept]

theorem applyRef_eq_self {t : TypeRef} (h : plan.newName t.baseName = t.baseName) :
    plan.applyRef t = t := by
  unfold applyRef
  exact if_pos h

@[simp] theorem applyRef_named (n : Name) : plan.applyRef (.named n) = .named (plan.newName n) := by
  rw [applyRef, applyName_eq]
  exact ite_eq_right_iff.2 fun h => (congrArg TypeRef.named h).symm

@[simp] theorem applyRef_list (t : TypeRef) :
    plan.applyRef (.list t) = .list (plan.applyRef t) := by
  rw [applyRef]
  refine ite_eq_right_iff.2 fun h => ?_
  rw [applyRef_eq_self plan (t := t) h]

@[simp] theorem applyRef_nonNull (t : TypeRef) :
    plan.applyRef (.nonNull t) = .nonNull (plan.applyRef t) := by
  rw [applyRef]
  refine ite_eq_right_iff.2 fun h => ?_
  rw [applyRef_eq_self plan (t := t) h]

@[simp] theorem baseName_applyRef (t : TypeRef) :
    (plan.applyRef t).baseName = plan.newName t.baseName := by
  induction t with
  | named n => rw [applyRef_named]; rfl
  | list t ih => rw [applyRef_list]; exact ih
  | nonNull t ih => rw [applyRef_nonNull]; exact ih

theorem applyField_eq_mk (named : Bool) (field : FieldDefinition) :
    plan.applyField named field =
      { field with
        name := if named then plan.newName field.name else field.name
        arguments := field.arguments.map plan.applyInput
        type := plan.applyRef field.type } := by
  cases named with
  | false => rfl
  | true => by_cases h : plan.newName field.name = field.name <;> simp [applyField, h]

theorem applyTypeName_eq (d : TypeDefinition) :
    plan.applyTypeName d = { d with name := plan.newName d.name } := by
  by_cases h : plan.newName d.name = d.name <;> simp [applyTypeName, h]

end Unchanged

section Parts

/-- A scalar or input object keeps its name. -/
def newDefinitionName (d : TypeDefinition) : Name :=
  match d.body with
  | .object .. | .interface .. | .union _ | .enum _ => plan.newName d.name
  | .scalar | .inputObject _ => d.name

def applyBody (type : Name) : TypeBody → TypeBody
  | .object interfaces fields =>
    .object (plan.applyNames interfaces) (plan.applyFields queryType type fields)
  | .interface interfaces fields =>
    .interface (plan.applyNames interfaces) (plan.applyFields queryType type fields)
  | .union members => .union (plan.applyNames members)
  | .inputObject fields => .inputObject (fields.map plan.applyInput)
  | .scalar => .scalar
  | .enum values => .enum values

variable (d : TypeDefinition)

theorem applyType_eq_mk :
    plan.applyType queryType d =
      { d with
        name := plan.newDefinitionName d
        body := plan.applyBody queryType d.name d.body } := by
  obtain ⟨description, name, directives, body⟩ := d
  cases body with
  | scalar | inputObject fields => rfl
  | _ => rw [applyType, applyTypeName_eq]; rfl

theorem description_applyType : (plan.applyType queryType d).description = d.description := by
  rw [applyType_eq_mk]

theorem directives_applyType : (plan.applyType queryType d).directives = d.directives := by
  rw [applyType_eq_mk]

theorem body_applyType :
    (plan.applyType queryType d).body = plan.applyBody queryType d.name d.body := by
  rw [applyType_eq_mk]

theorem kind_applyType : (plan.applyType queryType d).kind = d.kind := by
  rw [TypeDefinition.kind, body_applyType, TypeDefinition.kind]
  cases d.body <;> rfl

theorem isObject_applyType : (plan.applyType queryType d).isObject = d.isObject := by
  rw [TypeDefinition.isObject, body_applyType, TypeDefinition.isObject]
  cases d.body <;> rfl

theorem isInterface_applyType : (plan.applyType queryType d).isInterface = d.isInterface := by
  rw [TypeDefinition.isInterface, body_applyType, TypeDefinition.isInterface]
  cases d.body <;> rfl

theorem isScalar_applyType : (plan.applyType queryType d).isScalar = d.isScalar := by
  rw [TypeDefinition.isScalar, body_applyType, TypeDefinition.isScalar]
  cases d.body <;> rfl

theorem interfaces_applyType :
    (plan.applyType queryType d).interfaces = plan.applyNames d.interfaces := by
  rw [TypeDefinition.interfaces, body_applyType, TypeDefinition.interfaces]
  cases d.body <;> rfl

theorem members_applyType : (plan.applyType queryType d).members = plan.applyNames d.members := by
  rw [TypeDefinition.members, body_applyType, TypeDefinition.members]
  cases d.body <;> rfl

theorem fields_applyType :
    (plan.applyType queryType d).fields = plan.applyFields queryType d.name d.fields := by
  rw [TypeDefinition.fields, body_applyType, TypeDefinition.fields]
  cases d.body <;> rfl

theorem inputFields_applyType :
    (plan.applyType queryType d).inputFields = d.inputFields.map plan.applyInput := by
  rw [TypeDefinition.inputFields, body_applyType, TypeDefinition.inputFields]
  cases d.body <;> rfl

theorem enumValues_applyType : (plan.applyType queryType d).enumValues = d.enumValues := by
  rw [TypeDefinition.enumValues, body_applyType, TypeDefinition.enumValues]
  cases d.body <;> rfl

theorem references_applyField {named : Bool} {field : FieldDefinition} :
    (plan.applyField named field).references = field.references.map plan.newName := by
  simp [FieldDefinition.references, applyField_eq_mk, applyInput]

theorem references_applyDirective {d : DirectiveDefinition} :
    (plan.applyDirective d).references = d.references.map plan.newName := by
  simp [DirectiveDefinition.references, applyDirective, applyInput]

end Parts

variable {plan}

/-- No entry is for a scalar and there are no input objects, so that every type gets its new
name. -/
theorem newDefinitionName_eq {s : Schema} (h : plan.IsPossibleFor s) {d : TypeDefinition}
    (hd : d ∈ s.types) (hsupported : d.IsSupported) :
    plan.newDefinitionName d = plan.newName d.name := by
  unfold newDefinitionName
  cases hbody : d.body with
  | scalar =>
    have hscalar : d.isScalar = true := by rw [TypeDefinition.isScalar, hbody]
    exact (newName_eq_of_change?_eq_none (h.scalar d hd hscalar)).symm
  | inputObject fields => exact absurd (by rw [TypeDefinition.kind, hbody]) hsupported.kind
  | _ => rfl

variable (plan)

theorem applyDefinitions_append (ds es : List Definition) :
    plan.applyDefinitions queryType (ds ++ es) =
      plan.applyDefinitions queryType ds ++ plan.applyDefinitions queryType es :=
  List.filterMap_append ..

theorem filterMap_applyDefinitions {α : Type} {select : Definition → Option α} {f : α → Option α}
    (h : ∀ d, (plan.applyDefinition queryType d).bind select = (select d).bind f)
    (ds : List Definition) :
    (plan.applyDefinitions queryType ds).filterMap select = (ds.filterMap select).filterMap f := by
  rw [applyDefinitions, List.filterMap_filterMap, List.filterMap_filterMap]
  exact List.filterMap_congr fun d _ => h d

theorem schemas_applyDefinitions (ds : List Definition) :
    (plan.applyDefinitions queryType ds).filterMap Definition.schema? =
      (ds.filterMap Definition.schema?).map plan.applySchema := by
  rw [← List.filterMap_eq_map]
  refine plan.filterMap_applyDefinitions queryType (fun d => ?_) ds
  cases d with
  | type d =>
    rw [applyDefinition]
    cases plan.suppresses d.name <;> rfl
  | _ => rfl

theorem types_applyDefinitions (ds : List Definition) :
    (plan.applyDefinitions queryType ds).filterMap Definition.type? =
      (ds.filterMap Definition.type?).filterMap (plan.applyType? queryType) := by
  refine plan.filterMap_applyDefinitions queryType (fun d => ?_) ds
  cases d with
  | type d =>
    rw [applyDefinition_type, Option.bind_map]
    exact Option.bind_fun_some _
  | _ => rfl

theorem directives_applyDefinitions (ds : List Definition) :
    (plan.applyDefinitions queryType ds).filterMap Definition.directive? =
      (ds.filterMap Definition.directive?).map plan.applyDirective := by
  rw [← List.filterMap_eq_map]
  refine plan.filterMap_applyDefinitions queryType (fun d => ?_) ds
  cases d with
  | type d =>
    rw [applyDefinition]
    cases plan.suppresses d.name <;> rfl
  | _ => rfl

variable (document : Document)

/-- A schema definition is put in front if the document has none and the query type gets another
name. -/
theorem rootDefinition_eq :
    plan.rootDefinition queryType (plan.applyDefinitions queryType document.definitions) =
      if document.schemas = [] ∧ plan.newName queryType ≠ queryType then
        [.schema ⟨[], ⟨some (plan.newName queryType), none, none⟩⟩] else [] := by
  have hany : ((plan.applyDefinitions queryType document.definitions).any
      fun d => d.schema?.isSome) = false ↔ document.schemas = [] := by
    rw [Document.schemas, ← List.map_eq_nil_iff, ← plan.schemas_applyDefinitions queryType,
      List.filterMap_eq_nil_iff, List.any_eq_false]
    simp
  rw [rootDefinition]
  by_cases hschemas : document.schemas = []
  · by_cases hname : plan.newName queryType = queryType <;> simp [hany.2 hschemas, hschemas, hname]
  · rw [← hany, Bool.not_eq_false] at hschemas
    rw [hschemas, Bool.true_or, if_pos rfl, if_neg fun h => ?_]
    simp [hany.2 h.1] at hschemas

theorem types_applyDocument :
    (plan.applyDocument queryType document).types =
      document.types.filterMap (plan.applyType? queryType) := by
  rw [applyDocument, Document.types, rootDefinition_eq]
  split <;> exact types_applyDefinitions ..

theorem directives_applyDocument :
    (plan.applyDocument queryType document).directives =
      document.directives.map plan.applyDirective := by
  rw [applyDocument, Document.directives, rootDefinition_eq]
  split <;> exact directives_applyDefinitions ..

theorem schemas_applyDocument :
    (plan.applyDocument queryType document).schemas =
      if document.schemas = [] ∧ plan.newName queryType ≠ queryType then
        [⟨[], ⟨some (plan.newName queryType), none, none⟩⟩]
      else document.schemas.map plan.applySchema := by
  rw [applyDocument, Document.schemas, rootDefinition_eq, List.filterMap_append,
    schemas_applyDefinitions]
  by_cases h : document.schemas = [] ∧ plan.newName queryType ≠ queryType
  · have hnone : document.definitions.filterMap Definition.schema? = [] := h.1
    rw [if_pos h, if_pos h, hnone]
    rfl
  · rw [if_neg h, if_neg h]
    rfl

end Plan

end SchemaReshape
