import SchemaReshape.Proofs.Check
import SchemaReshape.Proofs.Query.Occurrence
import SchemaReshape.Query.Typing

/-!
# Checked selections

What each check of a query asks for, without its order. A scope that passes the check on a type has
been checked at every depth, each selection on the type that it occurs on
(`QueryContext.checkSelection_of_occurs`). A field that passes is a vertex exactly where its type is
composite.
-/

namespace SchemaReshape

open Check

namespace QueryContext

variable {c : QueryContext} {parent : TypeDefinition}

theorem checkDirective_eq_ok_iff {d : Directive} :
    c.checkDirective d = .ok () ↔
      (∀ definition, c.schema.directive? d.name = some definition →
        checkDirectiveArguments definition.arguments d = .ok ()) ∧
      c.checkVariables d.arguments = .ok () := by
  unfold checkDirective
  cases c.schema.directive? d.name <;> simp

theorem checkDirectives_eq_ok_iff {directives : List Directive} :
    c.checkDirectives directives = .ok () ↔ ∀ d ∈ directives, c.checkDirective d = .ok () :=
  forM_eq_ok_iff

theorem checkFieldArguments_eq_ok_iff {definition : FieldDefinition} {head : FieldHead} :
    c.checkFieldArguments parent definition head = .ok () ↔
      Argument.unknown? definition.arguments head.arguments = none ∧
        InputValueDefinition.missing? definition.arguments head.arguments = none ∧
        c.checkVariables head.arguments = .ok () := by
  unfold checkFieldArguments
  cases Argument.unknown? definition.arguments head.arguments with
  | some a => simp
  | none => cases InputValueDefinition.missing? definition.arguments head.arguments <;> simp

theorem conditionType_eq_ok_iff {name : Name} {type : TypeDefinition} :
    c.conditionType name = .ok type ↔
      c.schema.type? name = some type ∧ type.isComposite = true := by
  unfold conditionType
  cases c.schema.type? name with
  | none => simp
  | some d =>
    simp only [ite_throw_eq_ok_iff, pure_eq_ok_iff, Option.some.injEq]
    constructor
    · rintro ⟨hcomposite, rfl⟩
      exact ⟨rfl, hcomposite⟩
    · rintro ⟨rfl, hcomposite⟩
      exact ⟨hcomposite, rfl⟩

theorem inlineType_some_eq_ok_iff {name : Name} {type : TypeDefinition} :
    c.inlineType parent (some name) = .ok type ↔
      c.conditionType name = .ok type ∧ c.overlaps parent type = true := by
  simp only [inlineType, bind_eq_ok_iff, ite_throw_eq_ok_iff, pure_eq_ok_iff]
  constructor
  · rintro ⟨condition, hcondition, hoverlaps, rfl⟩
    exact ⟨hcondition, hoverlaps⟩
  · rintro ⟨hcondition, hoverlaps⟩
    exact ⟨type, hcondition, hoverlaps, rfl⟩

theorem inlineType_eq_ok {condition? : Option Name} {type : TypeDefinition}
    (h : c.inlineType parent condition? = .ok type) :
    c.schema.typeWithin? (some parent) condition? = some type := by
  cases condition? with
  | none => exact congrArg some (Except.ok.inj h)
  | some name => exact (conditionType_eq_ok_iff.1 (inlineType_some_eq_ok_iff.1 h).1).1

theorem checkSpread_eq_ok_iff {name : Name} :
    c.checkSpread parent name = .ok () ↔
      ∃ fragment condition, c.fragment? name = some fragment ∧
        c.conditionType fragment.condition = .ok condition ∧
        c.overlaps parent condition = true := by
  unfold checkSpread
  cases c.fragment? name with
  | none => simp
  | some fragment => simp [bind_eq_ok_iff]

@[simp] theorem checkScopeAssuming_ignore :
    c.checkScopeAssuming Assertion.ignore = c.checkScope := rfl

@[simp] theorem checkFragmentAssuming_ignore :
    c.checkFragmentAssuming Assertion.ignore = c.checkFragment := rfl

theorem scopeType?_eq_some_iff {definition : FieldDefinition} {type : TypeDefinition} :
    c.scopeType? definition = .ok (some type) ↔
      c.schema.type? definition.type.baseName = some type ∧ type.isComposite = true := by
  simp only [scopeType?, scopeTypeAssuming?, Assertion.ignore, pure_bind]
  cases c.schema.type? definition.type.baseName with
  | none => simp
  | some d =>
    cases hcomposite : d.isComposite with
    | false =>
      simp only [hcomposite, Bool.false_eq_true, if_false, pure_eq_ok_iff, reduceCtorEq,
        Option.some.injEq, false_iff]
      rintro ⟨rfl, h⟩
      rw [hcomposite] at h
      cases h
    | true =>
      simp only [hcomposite, if_true, pure_eq_ok_iff, Option.some.injEq]
      exact ⟨fun heq => ⟨heq, heq ▸ hcomposite⟩, fun h => h.1⟩

theorem scopeType?_eq_none_iff {definition : FieldDefinition} :
    c.scopeType? definition = .ok none ↔
      c.schema.type? definition.type.baseName = none ∧
        definition.type.baseName.isBuiltinScalar = true ∨
      ∃ type, c.schema.type? definition.type.baseName = some type ∧ type.isComposite = false := by
  simp only [scopeType?, scopeTypeAssuming?, Assertion.ignore, pure_bind]
  cases htype : c.schema.type? definition.type.baseName with
  | none => simp [htype, Schema.isDefined]
  | some d => cases hcomposite : d.isComposite <;> simp [hcomposite]

/-- A field that passes is the field that every composite type has, or one that its parent has and
that is selected from exactly if there is a type below it. -/
theorem checkSelection_field_iff {head : FieldHead} {selections : List Selection} :
    c.checkSelection parent (.field head selections) = .ok () ↔
      c.checkDirectives head.directives = .ok () ∧
        (head.name = Name.typeName ∧ selections = [] ∨
          head.name ≠ Name.typeName ∧ ∃ definition, parent.field? head.name = some definition ∧
            c.checkFieldArguments parent definition head = .ok () ∧
            (c.scopeType? definition = .ok none ∧ selections = [] ∨
              ∃ type, c.scopeType? definition = .ok (some type) ∧ selections ≠ [] ∧
                c.checkScope type selections = .ok ())) := by
  rw [checkSelection, checkSelectionAssuming, bind_unit_eq_ok_iff]
  refine and_congr_right fun _ => ?_
  by_cases hname : head.name = Name.typeName
  · simp [hname, List.isEmpty_iff]
  · rw [if_neg (by simpa using hname)]
    cases parent.field? head.name with
    | none => simp [hname]
    | some definition =>
      simp only [hname, false_and, false_or, ne_eq, not_false_eq_true, true_and,
        Option.some.injEq, exists_eq_left']
      rw [bind_unit_eq_ok_iff, bind_eq_ok_iff]
      refine and_congr_right fun _ => ?_
      constructor
      · rintro ⟨_ | type, htype, h⟩
        · exact .inl ⟨htype, by simpa using h⟩
        · exact .inr ⟨type, htype, by simpa using h⟩
      · rintro (⟨htype, hnil⟩ | ⟨type, htype, hne, h⟩)
        · exact ⟨none, htype, by simp [hnil]⟩
        · exact ⟨some type, htype, by simp [hne, h]⟩

theorem checkSelection_fragmentSpread_iff {name : Name} {directives : List Directive} :
    c.checkSelection parent (.fragmentSpread name directives) = .ok () ↔
      c.checkDirectives directives = .ok () ∧ c.checkSpread parent name = .ok () := by
  rw [checkSelection, checkSelectionAssuming, bind_unit_eq_ok_iff]

theorem checkSelection_inlineFragment_iff {condition? : Option Name} {directives : List Directive}
    {selections : List Selection} :
    c.checkSelection parent (.inlineFragment condition? directives selections) = .ok () ↔
      c.checkDirectives directives = .ok () ∧ ∃ type, c.inlineType parent condition? = .ok type ∧
        c.checkScope type selections = .ok () := by
  rw [checkSelection, checkSelectionAssuming, bind_unit_eq_ok_iff, bind_eq_ok_iff]
  rfl

theorem checkScope_cons {x : Selection} {scope : List Selection} :
    c.checkScope parent (x :: scope) = (do c.checkSelection parent x; c.checkScope parent scope) :=
  rfl

theorem checkScope_eq_ok_iff {scope : List Selection} :
    c.checkScope parent scope = .ok () ↔ ∀ x ∈ scope, c.checkSelection parent x = .ok () := by
  induction scope with
  | nil => exact iff_of_true rfl nofun
  | cons x scope ih => rw [checkScope_cons, bind_unit_eq_ok_iff, ih, List.forall_mem_cons]

theorem checkFragment_eq_ok_iff {fragment : FragmentDefinition} :
    c.checkFragment fragment = .ok () ↔
      ∃ parent, c.conditionType fragment.condition = .ok parent ∧
        c.checkDirectives fragment.directives = .ok () ∧
        c.checkScope parent fragment.selections = .ok () := by
  rw [checkFragment, checkFragmentAssuming, bind_eq_ok_iff]
  simp only [bind_unit_eq_ok_iff]
  rfl

/-- Every selection has been checked on the type that it occurs on. -/
theorem checkSelection_of_occurs {parent? owner? : Option TypeDefinition} {scope : List Selection}
    {x : Selection} (hx : c.schema.Occurs parent? scope owner? x) (hparent : parent? = some parent)
    (h : c.checkScope parent scope = .ok ()) :
    ∃ owner, owner? = some owner ∧ c.checkSelection owner x = .ok () := by
  induction hx generalizing parent with
  | here hx => exact ⟨parent, hparent, checkScope_eq_ok_iff.1 h _ hx⟩
  | @belowField _ _ _ _ head _ hfield hx ih =>
    subst hparent
    obtain ⟨-, ⟨-, rfl⟩ | ⟨-, definition, hdefinition, -, ⟨-, rfl⟩ | ⟨type, htype, -, hscope⟩⟩⟩ :=
      checkSelection_field_iff.1 (checkScope_eq_ok_iff.1 h _ hfield)
    · exact absurd hx Schema.not_occurs_nil
    · exact absurd hx Schema.not_occurs_nil
    · have hbelow : c.schema.typeBelow? (some parent) head.name = some type :=
        (Schema.typeBelow?_of_field? hdefinition).trans (scopeType?_eq_some_iff.1 htype).1
      exact ih hbelow hscope
  | withinFragment hfragment _ ih =>
    subst hparent
    obtain ⟨-, type, htype, hscope⟩ :=
      checkSelection_inlineFragment_iff.1 (checkScope_eq_ok_iff.1 h _ hfragment)
    exact ih (inlineType_eq_ok htype) hscope

end QueryContext

namespace Schema

variable {s : Schema} {query : Document}

@[simp] theorem checkOperationAssuming_ignore :
    s.checkOperationAssuming Assertion.ignore = s.checkOperation := rfl

theorem checkOperation_eq_ok_iff {operation : OperationDefinition} :
    s.checkOperation query operation = .ok () ↔
      ∃ parent, s.queryDefinition? = some parent ∧
        (s.queryContext query operation).checkDirectives operation.directives = .ok () ∧
        (s.queryContext query operation).checkScope parent operation.selections = .ok () ∧
        (∀ fragment ∈ query.fragments,
          (s.queryContext query operation).checkFragment fragment = .ok ()) ∧
        ∀ fragment ∈ query.fragments,
          fragment.name ∈ (s.queryContext query operation).spreads operation := by
  have hused : query.fragments.find? (fun fragment =>
      !((s.queryContext query operation).spreads operation).contains fragment.name) = none ↔
        ∀ fragment ∈ query.fragments,
          fragment.name ∈ (s.queryContext query operation).spreads operation := by
    simp
  simp only [checkOperation, checkOperationAssuming, Assertion.ignore, pure_bind]
  cases s.queryDefinition? with
  | none => simp
  | some parent =>
    simp only [Option.some.injEq, exists_eq_left', bind_unit_eq_ok_iff, List.forM_eq_forM,
      forM_eq_ok_iff, ← hused]
    cases query.fragments.find? _ <;> simp

/-- A valid query is one operation that passes on the query type and fragments that pass and are
spread. -/
theorem checkQuery_eq_ok_iff :
    s.checkQuery query = .ok () ↔
      ∃ operation, query.operations = [operation] ∧ operation.kind = .query ∧
        s.checkOperation query operation = .ok () := by
  unfold checkQuery checkQueryAssuming
  split
  · rename_i operation hoperations
    simp [hoperations]
  · rename_i hoperations
    refine iff_of_false nofun ?_
    rintro ⟨operation, hsingle, -⟩
    exact hoperations operation hsingle

end Schema

end SchemaReshape
