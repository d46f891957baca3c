import SchemaReshape.Proofs.Query.Rules

/-!
# What the check of a query takes for granted

The check of a query has branches for a query type and for types of fields that the schema does not
define, and it selects on types without asking whether they are of the schema. Against a schema that
was built the check does the same whether or not it looks at what it takes for granted, and whatever
it would fail with (`Schema.checkQueryAsserting_eq_of_build`).
-/

namespace SchemaReshape

open Check

def Assertion.holds (s : Schema) : Assertion → Bool
  | queryType name => (s.type? name).isSome
  | fieldType name => s.isDefined name
  | parent type => type ∈ s.types

/-- Fails where the assertion is not true, with a fault of its own. -/
def Schema.assert (s : Schema) (fault : Assertion → QueryFault) (a : Assertion) :
    Except QueryFault Unit :=
  if a.holds s then pure () else throw (fault a)

/-- The check with a look at everything that it takes for granted. -/
def Schema.checkQueryAsserting (s : Schema) (fault : Assertion → QueryFault) :
    Document → Except QueryFault Unit := s.checkQueryAssuming (s.assert fault)

namespace QueryContext

section Assuming

variable {c : QueryContext} {assume : Assertion → Except QueryFault Unit} {parent : TypeDefinition}

/-- A field of a type of the schema is of a type that the schema knows. -/
theorem scopeTypeAssuming?_eq (hassume : ∀ a, a.holds c.schema = true → assume a = .ok ())
    (hc : c.schema.WellFormed) (hparent : parent ∈ c.schema.types) {name : Name}
    {definition : FieldDefinition} (hdefinition : parent.field? name = some definition) :
    c.scopeTypeAssuming? assume definition = c.scopeType? definition := by
  have hfield : definition ∈ parent.fields := List.mem_of_find?_eq_some hdefinition
  have hdefined : c.schema.isDefined definition.type.baseName = true :=
    (hc.types_resolve parent hparent).fields definition hfield _ List.mem_cons_self
  rw [scopeTypeAssuming?, hassume (.fieldType _) hdefined]
  rfl

theorem mem_types_of_inlineType (hparent : parent ∈ c.schema.types) {condition? : Option Name}
    {type : TypeDefinition} (h : c.inlineType parent condition? = .ok type) :
    type ∈ c.schema.types := by
  cases condition? with
  | none =>
    cases h
    exact hparent
  | some name =>
    have htype := (conditionType_eq_ok_iff.1 (inlineType_some_eq_ok_iff.1 h).1).1
    exact Schema.mem_types_of_type? htype

mutual

/-- What is selected on stays a type of the schema along every chain of fields and fragments, so
that the assertions hold at every depth. -/
theorem checkSelectionAssuming_eq (hassume : ∀ a, a.holds c.schema = true → assume a = .ok ())
    (hc : c.schema.WellFormed) :
    ∀ (x : Selection) {parent : TypeDefinition}, parent ∈ c.schema.types →
      c.checkSelectionAssuming assume parent x = c.checkSelection parent x
  | .field head selections, parent, hparent => by
    rw [checkSelection, checkSelectionAssuming, checkSelectionAssuming]
    refine bind_congr_of_ok fun _ _ => ?_
    cases hname : head.name == Name.typeName with
    | true => rfl
    | false =>
      cases hdefinition : parent.field? head.name with
      | none => rfl
      | some definition =>
        refine bind_congr_of_ok fun _ _ => ?_
        -- Here the parent has to be of the schema: its fields are the ones that were resolved.
        rw [scopeTypeAssuming?_eq hassume hc hparent hdefinition]
        refine bind_congr_of_ok fun type? htype => ?_
        cases type? with
        | none => rfl
        | some type =>
          have hmem : type ∈ c.schema.types :=
            Schema.mem_types_of_type? (scopeType?_eq_some_iff.1 htype).1
          simp only [checkScopeAssuming_eq hassume hc selections hmem,
            checkScopeAssuming_ignore]
  | .fragmentSpread name directives, parent, _ => by
    rw [checkSelection, checkSelectionAssuming, checkSelectionAssuming]
  | .inlineFragment condition? directives selections, parent, hparent => by
    rw [checkSelection, checkSelectionAssuming, checkSelectionAssuming]
    refine bind_congr_of_ok fun _ _ => bind_congr_of_ok fun type htype => ?_
    exact checkScopeAssuming_eq hassume hc selections (mem_types_of_inlineType hparent htype)

theorem checkScopeAssuming_eq (hassume : ∀ a, a.holds c.schema = true → assume a = .ok ())
    (hc : c.schema.WellFormed) :
    ∀ (xs : List Selection) {parent : TypeDefinition}, parent ∈ c.schema.types →
      c.checkScopeAssuming assume parent xs = c.checkScope parent xs
  | [], parent, hparent => hassume (.parent parent) (decide_eq_true hparent)
  | x :: xs, parent, hparent => by
    rw [checkScopeAssuming, hassume (.parent parent) (decide_eq_true hparent),
      checkSelectionAssuming_eq hassume hc x hparent, checkScopeAssuming_eq hassume hc xs hparent]
    rfl

end

theorem checkFragmentAssuming_eq (hassume : ∀ a, a.holds c.schema = true → assume a = .ok ())
    (hc : c.schema.WellFormed) (fragment : FragmentDefinition) :
    c.checkFragmentAssuming assume fragment = c.checkFragment fragment := by
  refine bind_congr_of_ok fun parent hparent => bind_congr_of_ok fun _ _ => ?_
  exact checkScopeAssuming_eq hassume hc fragment.selections
    (Schema.mem_types_of_type? (conditionType_eq_ok_iff.1 hparent).1)

end Assuming

end QueryContext

/-- The query is at fault and not the schema. -/
def QueryFault.IsOfQuery : QueryFault → Prop
  | queryTypeUndefined _ => False
  | _ => True

namespace QueryContext

variable (c : QueryContext)

theorem raises_checkVariables (arguments : List Argument) :
    Raises QueryFault.IsOfQuery (c.checkVariables arguments) := by
  unfold checkVariables
  dsimp only
  split
  · exact .pure
  · exact .throw trivial

/-- Arguments that are at fault are so one at a time, and nothing more is checked then. -/
theorem raises_arguments {P : QueryFault → Prop} {declared : List InputValueDefinition}
    {arguments : List Argument} {unknown : Argument → QueryFault}
    {missing : InputValueDefinition → QueryFault} {rest : Except QueryFault Unit}
    (hunknown : ∀ a, P (unknown a)) (hmissing : ∀ a, P (missing a)) (hrest : Raises P rest) :
    Raises P (do
      if let some a := Argument.unknown? declared arguments then throw (unknown a)
      if let some a := InputValueDefinition.missing? declared arguments then throw (missing a)
      rest) := by
  cases Argument.unknown? declared arguments with
  | some a => exact .throw (hunknown a)
  | none =>
    cases InputValueDefinition.missing? declared arguments with
    | some a => exact .throw (hmissing a)
    | none => exact hrest

theorem raises_checkDirective (d : Directive) :
    Raises QueryFault.IsOfQuery (c.checkDirective d) := by
  unfold checkDirective
  split
  · exact (raises_arguments (fun _ => trivial) (fun _ => trivial) .pure).bind fun _ =>
      c.raises_checkVariables d.arguments
  · exact c.raises_checkVariables d.arguments

theorem raises_checkDirectives (directives : List Directive) :
    Raises QueryFault.IsOfQuery (c.checkDirectives directives) :=
  .forM c.raises_checkDirective

theorem raises_checkFieldArguments (parent : TypeDefinition) (definition : FieldDefinition)
    (head : FieldHead) :
    Raises QueryFault.IsOfQuery (c.checkFieldArguments parent definition head) :=
  raises_arguments (fun _ => trivial) (fun _ => trivial) (c.raises_checkVariables head.arguments)

theorem raises_conditionType (name : Name) :
    Raises QueryFault.IsOfQuery (c.conditionType name) := by
  unfold conditionType
  split
  · exact .throw trivial
  · exact .ite .pure (.throw trivial)

theorem raises_inlineType (parent : TypeDefinition) (condition? : Option Name) :
    Raises QueryFault.IsOfQuery (c.inlineType parent condition?) := by
  cases condition? with
  | none => exact .pure
  | some name => exact (c.raises_conditionType name).bind fun _ => .ite .pure (.throw trivial)

theorem raises_checkSpread (parent : TypeDefinition) (name : Name) :
    Raises QueryFault.IsOfQuery (c.checkSpread parent name) := by
  unfold checkSpread
  split
  · exact .throw trivial
  · exact (c.raises_conditionType _).bind fun _ => .ite .pure (.throw trivial)

theorem raises_scopeType? (definition : FieldDefinition) :
    Raises QueryFault.IsOfQuery (c.scopeType? definition) := by
  simp only [scopeType?, scopeTypeAssuming?, Assertion.ignore, pure_bind]
  split
  · exact .pure
  · exact .ite .pure (.throw trivial)

mutual

theorem raises_checkSelection :
    ∀ (x : Selection) (parent : TypeDefinition),
      Raises QueryFault.IsOfQuery (c.checkSelection parent x)
  | .field head selections, parent => by
    rw [checkSelection, checkSelectionAssuming]
    refine (c.raises_checkDirectives head.directives).bind fun _ => ?_
    refine .ite (.ite .pure (.throw trivial)) ?_
    split
    · exact .throw trivial
    · refine (c.raises_checkFieldArguments parent _ head).bind fun _ => ?_
      refine (c.raises_scopeType? _).bind fun type? => ?_
      cases type? with
      | none => exact .ite .pure (.throw trivial)
      | some type => exact .ite (.throw trivial) (raises_checkScope selections type)
  | .fragmentSpread name directives, parent => by
    rw [checkSelection, checkSelectionAssuming]
    exact (c.raises_checkDirectives directives).bind fun _ => c.raises_checkSpread parent name
  | .inlineFragment condition? directives selections, parent => by
    rw [checkSelection, checkSelectionAssuming]
    exact (c.raises_checkDirectives directives).bind fun _ =>
      (c.raises_inlineType parent condition?).bind fun type => raises_checkScope selections type

theorem raises_checkScope : ∀ (xs : List Selection) (parent : TypeDefinition),
    Raises QueryFault.IsOfQuery (c.checkScope parent xs)
  | [], _ => .pure
  | x :: xs, parent => by
    rw [checkScope_cons]
    exact (raises_checkSelection x parent).bind fun _ => raises_checkScope xs parent

end

theorem raises_checkFragment (fragment : FragmentDefinition) :
    Raises QueryFault.IsOfQuery (c.checkFragment fragment) :=
  (c.raises_conditionType fragment.condition).bind fun parent =>
    (c.raises_checkDirectives fragment.directives).bind fun _ =>
      c.raises_checkScope fragment.selections parent

end QueryContext

namespace Schema

variable {s : Schema} (hs : s.WellFormed) {fault : Assertion → QueryFault} {query : Document}

include hs

theorem checkOperationAsserting_eq (operation : OperationDefinition) :
    s.checkOperationAssuming (s.assert fault) query operation =
      s.checkOperation query operation := by
  obtain ⟨parent, hquery, hmem⟩ := hs.exists_queryDefinition
  have hquery' : (Assertion.queryType s.queryType).holds s = true := Option.isSome_of_eq_some hquery
  have hassume : ∀ a : Assertion, a.holds s = true → s.assert fault a = .ok () :=
    fun _ ha => if_pos ha
  have hselections := QueryContext.checkScopeAssuming_eq (c := s.queryContext query operation)
    hassume hs operation.selections hmem
  have hfragments : (s.queryContext query operation).checkFragmentAssuming (s.assert fault) =
      (s.queryContext query operation).checkFragment :=
    funext (QueryContext.checkFragmentAssuming_eq hassume hs)
  rw [checkOperation, checkOperationAssuming, checkOperationAssuming]
  rw [hassume _ hquery', hquery]
  dsimp only
  rw [hselections, hfragments]
  rfl

theorem checkQueryAsserting_eq : s.checkQueryAsserting fault query = s.checkQuery query := by
  have hoperation : s.checkOperationAssuming (s.assert fault) query = s.checkOperation query :=
    funext (checkOperationAsserting_eq hs)
  rw [checkQueryAsserting, checkQueryAssuming, hoperation]
  rfl

theorem raises_checkOperation (operation : OperationDefinition) :
    Raises QueryFault.IsOfQuery (s.checkOperation query operation) := by
  obtain ⟨parent, hquery, -⟩ := hs.exists_queryDefinition
  simp only [checkOperation, checkOperationAssuming, Assertion.ignore, pure_bind, hquery]
  refine (QueryContext.raises_checkDirectives _ _).bind fun _ => ?_
  refine (QueryContext.raises_checkScope _ _ parent).bind fun _ => ?_
  refine (Raises.forM (QueryContext.raises_checkFragment _)).bind fun _ => ?_
  split
  · exact .pure
  · exact .throw trivial

theorem raises_checkQuery : Raises QueryFault.IsOfQuery (s.checkQuery query) := by
  unfold checkQuery checkQueryAssuming
  split
  · exact .ite (raises_checkOperation hs _) (.throw trivial)
  · exact .throw trivial

end Schema

/-- Against a schema that a document builds, a query is never refused for a query type that is not
defined, and the check keeps all its assertions: it does the same whatever a failed one would lead
to. -/
theorem Schema.checkQueryAsserting_eq_of_build {document : Document} {s : Schema}
    (h : Schema.build document = .ok s) (query : Document) :
    (∀ name, s.checkQuery query ≠ .error (.queryTypeUndefined name)) ∧
      ∀ fault, s.checkQueryAsserting fault query = s.checkQuery query := by
  obtain ⟨-, -, -, hs⟩ := build_eq_ok_iff.1 h
  exact ⟨fun name hname => raises_checkQuery hs _ hname, fun _ => checkQueryAsserting_eq hs⟩

theorem Sample.checkQueryAsserting_namedPets : ∃ s, Schema.build pets = .ok s ∧
    (∀ name, s.checkQuery namedPets ≠ .error (.queryTypeUndefined name)) ∧
    ∀ fault, s.checkQueryAsserting fault namedPets = s.checkQuery namedPets :=
  have h : Schema.build pets = .ok _ := rfl
  ⟨_, h, Schema.checkQueryAsserting_eq_of_build h namedPets⟩

/-- Against a schema that was not built an assertion can fail. -/
example (fault : Assertion → QueryFault) :
    (⟨[⟨none, "Query", [], .object [] [Sample.field "Person" (.named "Person")]⟩], [], "Query",
      none, none⟩ : Schema).checkQueryAsserting fault Sample.namedPets =
        .error (fault (.fieldType "Person")) := rfl

end SchemaReshape
