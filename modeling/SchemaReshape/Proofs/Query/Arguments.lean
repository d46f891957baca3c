import SchemaReshape.Proofs.Document.Arguments
import SchemaReshape.Proofs.Query.Typing
import SchemaReshape.Proofs.Schema.Supported

/-!
# Directives and variables of a valid query

A valid query has been looked through for directives that do not fit their definition and for
variables that the operation does not define. Three places are passed over: the directives at the
operation's variables, the arguments of the field that every composite type has, and definitions
that are not executable. Everywhere else directives fit and variables are defined
(`Schema.applied_of_checkQuery`).
-/

namespace SchemaReshape

open Check SyntaxTree

namespace Value

variable {v : Name}

mutual

theorem mem_usedVariables_iff :
    ∀ x : Value, v ∈ x.usedVariables ↔ .value (.var v) ∈ x.tree.nodes
  | var n => by simp [usedVariables, tree, leaf, mem_nodes_node]
  | int _ | float _ | string _ | boolean _ | null | enum _ => by
    simp [usedVariables, tree, leaf, mem_nodes_node]
  | list values => by
    rw [usedVariables, mem_valuesUsed_iff values, tree, mem_nodes_node]
    simp
  | object fields => by
    rw [usedVariables, mem_fieldsUsed_iff fields, tree, mem_nodes_node]
    simp

theorem mem_valuesUsed_iff :
    ∀ xs : List Value, v ∈ valuesUsed xs ↔ ∃ t ∈ trees xs, .value (.var v) ∈ t.nodes
  | [] => by simp [valuesUsed, trees]
  | x :: xs => by
    simp [valuesUsed, trees, mem_usedVariables_iff x, mem_valuesUsed_iff xs]

theorem mem_fieldsUsed_iff :
    ∀ fs : List (Name × Value), v ∈ fieldsUsed fs ↔
      ∃ t ∈ fieldTrees fs, .value (.var v) ∈ t.nodes
  | [] => by simp [fieldsUsed, fieldTrees]
  | (_, x) :: fs => by
    simp [fieldsUsed, fieldTrees, mem_usedVariables_iff x, mem_fieldsUsed_iff fs, mem_nodes_node]

end

end Value

theorem Argument.mem_nodes_iff {a : Argument} {v : Name} :
    .value (.var v) ∈ a.tree.nodes ↔ v ∈ a.value.usedVariables := by
  rw [tree, mem_nodes_node, Value.mem_usedVariables_iff]
  simp

/-- Every argument is one of those defined, and those that are asked for are given. -/
structure Argument.Fit (definitions : List InputValueDefinition) (arguments : List Argument) :
    Prop where
  declared : ∀ a ∈ arguments, ∃ e ∈ definitions, e.name = a.name
  required : ∀ e ∈ definitions, e.type.isNonNull = true → e.default = none →
    ∃ a ∈ arguments, a.name = e.name

/-- No argument is at fault if and only if all fit. -/
theorem Argument.fit_iff {definitions : List InputValueDefinition} {arguments : List Argument} :
    Fit definitions arguments ↔ unknown? definitions arguments = none ∧
      InputValueDefinition.missing? definitions arguments = none := by
  simp only [unknown?, InputValueDefinition.missing?, InputValueDefinition.isRequired,
    List.find?_eq_none]
  constructor
  · intro h
    exact ⟨by simpa using h.declared, by simpa using h.required⟩
  · rintro ⟨hunknown, hmissing⟩
    exact ⟨by simpa using hunknown, by simpa using hmissing⟩

def Directive.Fits (d : Directive) (definition : DirectiveDefinition) : Prop :=
  Argument.Fit definition.arguments d.arguments

/-- If the schema defines the directive, its arguments are those that it should have. -/
def Schema.Fits (s : Schema) (d : Directive) : Prop :=
  ∀ definition ∈ s.directives, definition.name = d.name → d.Fits definition

/-- The variables in the argument, at any depth, are variables of the operation. -/
def OperationDefinition.Defines (operation : OperationDefinition) (a : Argument) : Prop :=
  ∀ v, .value (.var v) ∈ a.tree.nodes → ∃ d ∈ operation.variableDefinitions, d.name = v

def Selection.isTypeName : Selection → Bool
  | field head _ => head.name == Name.typeName
  | fragmentSpread .. | inlineFragment .. => false

namespace QueryContext

variable {c : QueryContext} {parent : TypeDefinition} {scope : List Selection} {x : Selection}

theorem checkVariables_eq_ok_iff {arguments : List Argument} :
    c.checkVariables arguments = .ok () ↔
      ∀ a ∈ arguments, ∀ v ∈ a.value.usedVariables, v ∈ c.definedVariables := by
  have hnone : c.checkVariables arguments = .ok () ↔
      (arguments.flatMap (·.value.usedVariables)).find?
        (fun v => !c.definedVariables.contains v) = none := by
    unfold checkVariables
    dsimp only
    split
    · rename_i hnone
      exact iff_of_true rfl hnone
    · rename_i v hsome
      exact iff_of_false nofun (by rw [hsome]; exact nofun)
  rw [hnone]
  simp

theorem checkDirectiveArguments_eq_ok_iff {definition : DirectiveDefinition} {d : Directive} :
    checkDirectiveArguments definition.arguments d = .ok () ↔ d.Fits definition := by
  rw [Directive.Fits, Argument.fit_iff]
  unfold checkDirectiveArguments
  cases Argument.unknown? definition.arguments d.arguments with
  | some a => simp
  | none => cases InputValueDefinition.missing? definition.arguments d.arguments <;> simp

/-- Of a selection that passes all is checked but the arguments of the field that every composite
type has. -/
theorem checks_of_checkSelection (h : c.checkSelection parent x = .ok ()) :
    (∀ d ∈ x.directives, c.checkDirective d = .ok ()) ∧
      (x.isTypeName = false → c.checkVariables x.arguments = .ok ()) := by
  cases x with
  | field head selections =>
    obtain ⟨hdirectives, hfield⟩ := checkSelection_field_iff.1 h
    refine ⟨checkDirectives_eq_ok_iff.1 hdirectives, fun hname => ?_⟩
    rcases hfield with ⟨htypeName, -⟩ | ⟨-, definition, -, harguments, -⟩
    · exact absurd htypeName (by simpa [Selection.isTypeName] using hname)
    · exact (checkFieldArguments_eq_ok_iff.1 harguments).2.2
  | fragmentSpread name directives =>
    have hdirectives := (checkSelection_fragmentSpread_iff.1 h).1
    exact ⟨checkDirectives_eq_ok_iff.1 hdirectives, fun _ => rfl⟩
  | inlineFragment condition? directives selections =>
    have hdirectives := (checkSelection_inlineFragment_iff.1 h).1
    exact ⟨checkDirectives_eq_ok_iff.1 hdirectives, fun _ => rfl⟩

theorem checks_of_checkScope (h : c.checkScope parent scope = .ok ())
    (hx : .selection x ∈ (Selection.scopeTree scope).nodes) :
    (∀ d ∈ x.directives, c.checkDirective d = .ok ()) ∧
      (x.isTypeName = false → c.checkVariables x.arguments = .ok ()) := by
  obtain ⟨owner?, hoccurs⟩ := c.schema.exists_occurs (some parent) hx
  obtain ⟨owner, -, hselection⟩ := checkSelection_of_occurs hoccurs rfl h
  exact checks_of_checkSelection hselection

end QueryContext

namespace Schema

variable {s : Schema} {query : Document} {operation : OperationDefinition}

section Checks

theorem checkVariables_queryContext_iff {arguments : List Argument} :
    (s.queryContext query operation).checkVariables arguments = .ok () ↔
      ∀ a ∈ arguments, operation.Defines a := by
  rw [QueryContext.checkVariables_eq_ok_iff]
  simp only [OperationDefinition.Defines, Argument.mem_nodes_iff, queryContext, List.mem_map]

variable (hs : s.WellFormed)

include hs

theorem checkDirective_queryContext_iff {d : Directive} :
    (s.queryContext query operation).checkDirective d = .ok () ↔
      s.Fits d ∧ ∀ a ∈ d.arguments, operation.Defines a := by
  rw [QueryContext.checkDirective_eq_ok_iff, checkVariables_queryContext_iff]
  refine and_congr_left' (forall_congr' fun definition => ?_)
  have hdefined : (s.queryContext query operation).schema.directive? d.name = some definition ↔
      definition ∈ s.directives ∧ definition.name = d.name :=
    directive?_eq_some_iff hs.directives_nodup
  rw [hdefined, and_imp, QueryContext.checkDirectiveArguments_eq_ok_iff]

theorem checkDirectives_queryContext_iff {directives : List Directive} :
    (s.queryContext query operation).checkDirectives directives = .ok () ↔
      ∀ d ∈ directives, s.Fits d ∧ ∀ a ∈ d.arguments, operation.Defines a := by
  rw [QueryContext.checkDirectives_eq_ok_iff]
  simp only [checkDirective_queryContext_iff hs]

variable {parent : TypeDefinition} {scope : List Selection}
variable (hscope : (s.queryContext query operation).checkScope parent scope = .ok ())

include hscope

/-- In a scope that passes the directives fit at every depth. -/
theorem fits_of_checkScope :
    ∀ d, .directive d ∈ (Selection.scopeTree scope).nodes → s.Fits d := by
  rw [Selection.forall_directives_iff]
  intro x hx d hd
  obtain ⟨hdirectives, -⟩ := QueryContext.checks_of_checkScope hscope hx
  exact ((checkDirective_queryContext_iff hs).1 (hdirectives d hd)).1

/-- In a scope that passes variables are defined at every depth if they are where it was not
looked. -/
theorem defines_iff_of_checkScope :
    (∀ a, .argument a ∈ (Selection.scopeTree scope).nodes → operation.Defines a) ↔
      ∀ x, .selection x ∈ (Selection.scopeTree scope).nodes → x.isTypeName = true →
        ∀ a ∈ x.arguments, operation.Defines a := by
  rw [Selection.forall_arguments_iff]
  refine forall₂_congr fun x hx => ?_
  obtain ⟨hdirectives, harguments⟩ := QueryContext.checks_of_checkScope hscope hx
  rw [checkVariables_queryContext_iff] at harguments
  constructor
  · intro h _
    exact h.1
  · intro h
    refine ⟨?_, fun d hd => ((checkDirective_queryContext_iff hs).1 (hdirectives d hd)).2⟩
    cases hname : x.isTypeName with
    | false => exact harguments hname
    | true => exact h hname

end Checks

section Operation

variable (hs : s.WellFormed) (h : s.checkOperation query operation = .ok ())

include hs h

theorem fits_operation_iff :
    (∀ d, .directive d ∈ operation.tree.nodes → s.Fits d) ↔
      ∀ v ∈ operation.variableDefinitions, ∀ d ∈ v.directives, s.Fits d := by
  obtain ⟨parent, -, hdirectives, hscope, -⟩ := checkOperation_eq_ok_iff.1 h
  have hhead := (checkDirectives_queryContext_iff hs).1 hdirectives
  rw [OperationDefinition.forall_directives_iff, and_iff_left (fits_of_checkScope hs hscope),
    and_iff_left fun d hd => (hhead d hd).1]

theorem defines_operation_iff :
    (∀ a, .argument a ∈ operation.tree.nodes → operation.Defines a) ↔
      (∀ v ∈ operation.variableDefinitions, ∀ d ∈ v.directives, ∀ a ∈ d.arguments,
        operation.Defines a) ∧
      ∀ x, .selection x ∈ (Selection.scopeTree operation.selections).nodes →
        x.isTypeName = true → ∀ a ∈ x.arguments, operation.Defines a := by
  obtain ⟨parent, -, hdirectives, hscope, -⟩ := checkOperation_eq_ok_iff.1 h
  have hhead := (checkDirectives_queryContext_iff hs).1 hdirectives
  rw [OperationDefinition.forall_arguments_iff, and_iff_right fun d hd => (hhead d hd).2,
    defines_iff_of_checkScope hs hscope]

variable {fragment : FragmentDefinition} (hfragment : fragment ∈ query.fragments)

include hfragment

theorem fits_fragment : ∀ d, .directive d ∈ fragment.tree.nodes → s.Fits d := by
  obtain ⟨-, -, -, -, hfragments, -⟩ := checkOperation_eq_ok_iff.1 h
  obtain ⟨parent, -, hdirectives, hscope⟩ :=
    QueryContext.checkFragment_eq_ok_iff.1 (hfragments fragment hfragment)
  have hhead := (checkDirectives_queryContext_iff hs).1 hdirectives
  exact FragmentDefinition.forall_directives_iff.2
    ⟨fun d hd => (hhead d hd).1, fits_of_checkScope hs hscope⟩

theorem defines_fragment_iff :
    (∀ a, .argument a ∈ fragment.tree.nodes → operation.Defines a) ↔
      ∀ x, .selection x ∈ (Selection.scopeTree fragment.selections).nodes →
        x.isTypeName = true → ∀ a ∈ x.arguments, operation.Defines a := by
  obtain ⟨-, -, -, -, hfragments, -⟩ := checkOperation_eq_ok_iff.1 h
  obtain ⟨parent, -, hdirectives, hscope⟩ :=
    QueryContext.checkFragment_eq_ok_iff.1 (hfragments fragment hfragment)
  have hhead := (checkDirectives_queryContext_iff hs).1 hdirectives
  rw [FragmentDefinition.forall_arguments_iff, and_iff_right fun d hd => (hhead d hd).2,
    defines_iff_of_checkScope hs hscope]

omit hfragment in
theorem defines_document_iff (hoperations : query.operations = [operation]) :
    (∀ a, .argument a ∈ query.nodes → operation.Defines a) ↔
      (∀ v ∈ operation.variableDefinitions, ∀ d ∈ v.directives, ∀ a ∈ d.arguments,
        operation.Defines a) ∧
      (∀ x, .selection x ∈ query.nodes → x.isTypeName = true →
        ∀ a ∈ x.arguments, operation.Defines a) ∧
      ∀ x ∈ query.definitions, x.operation? = none → x.fragment? = none →
        ∀ a, .argument a ∈ x.tree.nodes → operation.Defines a := by
  have hoperation : ∀ d, .operation d ∈ query.definitions ↔ d = operation := by
    intro d
    rw [← Document.mem_operations, hoperations, List.mem_singleton]
  have hdefinitions : (∀ a, .argument a ∈ query.nodes → operation.Defines a) ↔
      ∀ x ∈ query.definitions, ∀ a, .argument a ∈ x.tree.nodes → operation.Defines a := by
    simp only [Node.forall_argument_iff]
    rw [Document.forall_nodes, and_iff_right nofun]
  rw [hdefinitions]
  constructor
  · intro hall
    have hoperation' := (defines_operation_iff hs h).1 (hall _ ((hoperation operation).2 rfl))
    refine ⟨hoperation'.1, fun x hx hname => ?_, fun x hx _ _ => hall x hx⟩
    rcases Document.exists_scope_of_mem_nodes hx with ⟨d, hd, hx⟩ | ⟨d, hd, hx⟩
    · obtain rfl := (hoperation d).1 (Document.mem_operations.1 hd)
      exact hoperation'.2 x hx hname
    · exact (defines_fragment_iff hs h hd).1 (hall _ (Document.mem_fragments.1 hd)) x hx hname
  · rintro ⟨hvariables, htypeName, hothers⟩ definition hd
    cases definition with
    | operation d =>
      obtain rfl := (hoperation d).1 hd
      refine (defines_operation_iff hs h).2 ⟨hvariables, fun x hx => htypeName x ?_⟩
      exact Document.mem_nodes_of_operation (Document.mem_operations.2 hd) hx
    | fragment d =>
      have hfragment := Document.mem_fragments.2 hd
      refine (defines_fragment_iff hs h hfragment).2 fun x hx => htypeName x ?_
      exact Document.mem_nodes_of_fragment hfragment hx
    | schema | type | extension | directive => exact hothers _ hd rfl rfl

end Operation

/-- In a valid query every directive fits and every variable is defined, provided that those do that
the check passes over: the directives at the operation's variables, the arguments of the field that
every composite type has, and the directives in definitions that are not executable. -/
theorem applied_of_checkQuery {document : Document} (hs : document.supportedSchema = .ok s)
    (h : s.checkQuery query = .ok ()) :
    ∃ operation, query.operations = [operation] ∧
      ((∀ d, .directive d ∈ operation.tree.nodes ∨
          (∃ fragment ∈ query.fragments, .directive d ∈ fragment.tree.nodes) → s.Fits d) ↔
        ∀ v ∈ operation.variableDefinitions, ∀ d ∈ v.directives, s.Fits d) ∧
      ((∀ a, .argument a ∈ query.nodes → operation.Defines a) ↔
        (∀ v ∈ operation.variableDefinitions, ∀ d ∈ v.directives, ∀ a ∈ d.arguments,
          operation.Defines a) ∧
        (∀ x, .selection x ∈ query.nodes → x.isTypeName = true →
          ∀ a ∈ x.arguments, operation.Defines a) ∧
        ∀ x ∈ query.definitions, x.operation? = none → x.fragment? = none →
          ∀ a, .argument a ∈ x.tree.nodes → operation.Defines a) := by
  have hwell := (Document.supportedSchema_eq_ok_iff.1 hs).wellFormed
  obtain ⟨operation, hoperations, -, hoperation⟩ := checkQuery_eq_ok_iff.1 h
  refine ⟨operation, hoperations, ?_, defines_document_iff hwell hoperation hoperations⟩
  rw [← fits_operation_iff hwell hoperation]
  constructor
  · intro hall d hd
    exact hall d (.inl hd)
  · rintro hall d (hd | ⟨fragment, hfragment, hd⟩)
    · exact hall d hd
    · exact fits_fragment hwell hoperation hfragment d hd

end Schema

namespace Sample

def petQuery (directives : List Directive) (x : Selection) : Document :=
  ⟨[.operation ⟨.query, none, [⟨"kind", .nonNull (.named "Kind"), none, directives⟩], [],
    [.field ⟨none, "Person", [], []⟩ [x]]⟩]⟩

/-- The pets of a kind, with a list of variables in an argument that the directive declares. -/
def petsOfKind : Document :=
  petQuery [⟨"output", [⟨"name", .string "kind"⟩]⟩]
    (.field ⟨none, "pet", [⟨"kind", .var "kind"⟩], [⟨"output", [⟨"name", .list [.var "kind"]⟩]⟩]⟩
      [.field ⟨none, "__typename", [], []⟩ []])

theorem applied_petsOfKind : ∃ s, pets.supportedSchema = .ok s ∧ s.checkQuery petsOfKind = .ok () ∧
    ∃ operation, petsOfKind.operations = [operation] ∧
      ((∀ d, .directive d ∈ operation.tree.nodes ∨
          (∃ fragment ∈ petsOfKind.fragments, .directive d ∈ fragment.tree.nodes) → s.Fits d) ↔
        ∀ v ∈ operation.variableDefinitions, ∀ d ∈ v.directives, s.Fits d) ∧
      ((∀ a, .argument a ∈ petsOfKind.nodes → operation.Defines a) ↔
        (∀ v ∈ operation.variableDefinitions, ∀ d ∈ v.directives, ∀ a ∈ d.arguments,
          operation.Defines a) ∧
        (∀ x, .selection x ∈ petsOfKind.nodes → x.isTypeName = true →
          ∀ a ∈ x.arguments, operation.Defines a) ∧
        ∀ x ∈ petsOfKind.definitions, x.operation? = none → x.fragment? = none →
          ∀ a, .argument a ∈ x.tree.nodes → operation.Defines a) :=
  ⟨_, rfl, rfl, Schema.applied_of_checkQuery (show pets.supportedSchema = .ok _ from rfl)
    (show Schema.checkQuery _ petsOfKind = .ok () from rfl)⟩

/-- A directive without the argument that it asks for, at the variable. -/
def unfit : Document := petQuery [⟨"output", []⟩] (.field ⟨none, "name", [], []⟩ [])

/-- A variable that the operation does not define, in an argument of the field that every composite
type has. -/
def undefined : Document := petQuery [] (.field ⟨none, "__typename", [⟨"a", .var "v"⟩], []⟩ [])

/-- What the check passes over can be at fault in either way. -/
theorem checkQuery_passes_over : ∃ s, pets.supportedSchema = .ok s ∧
    (s.checkQuery unfit = .ok () ∧ ∃ operation d, unfit.operations = [operation] ∧
      .directive d ∈ operation.tree.nodes ∧ ¬ s.Fits d) ∧
    s.checkQuery undefined = .ok () ∧ ∃ operation a, undefined.operations = [operation] ∧
      .argument a ∈ undefined.nodes ∧ ¬ operation.Defines a := by
  refine ⟨_, rfl, ⟨rfl, _, ⟨"output", []⟩, rfl, by decide, fun hfits => ?_⟩,
    rfl, _, ⟨"a", .var "v"⟩, rfl, by decide, fun hdefines => ?_⟩
  · obtain ⟨a, ha, -⟩ := (hfits _ (List.mem_singleton_self _) rfl).required _
      (List.mem_singleton_self _) rfl rfl
    exact absurd ha List.not_mem_nil
  · obtain ⟨d, hd, hname⟩ := hdefines "v" (by decide)
    obtain rfl := List.mem_singleton.1 hd
    exact absurd hname (by decide)

end Sample

end SchemaReshape
