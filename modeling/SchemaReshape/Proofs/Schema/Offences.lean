import SchemaReshape.Proofs.Document.Applied
import SchemaReshape.Proofs.Schema.Supported

/-!
# The supported subset

`Document.InSubset` says which documents pass `Document.checkNodes` without the nodes that the check
meets: by the kinds of definitions, the names of types, and the values written in directives and as
defaults. `Node.Offends` says which node is refused for which fault, and a document outside of the
subset is refused for the first one of its nodes that offends
(`Document.checkNodes_refuses_first_offence`).
-/

namespace SchemaReshape

open Check

namespace Name

/-- Letters, digits and underscores, all of them ASCII, with no digit and no two underscores at the
front. -/
structure NamesType (n : Name) : Prop where
  nonempty : n.toList ≠ []
  first : ∀ c ∈ n.toList.head?, c.isAlpha = true ∨ c = '_'
  chars : ∀ c ∈ n.toList, c.isAlphanum = true ∨ c = '_'
  unreserved : ¬ ['_', '_'] <+: n.toList

theorem isStartChar_iff {c : Char} : isStartChar c = true ↔ c.isAlpha = true ∨ c = '_' := by
  rw [isStartChar, Bool.or_eq_true, decide_eq_true_eq]

theorem isChar_iff {c : Char} : isChar c = true ↔ c.isAlphanum = true ∨ c = '_' := by
  rw [isChar, Bool.or_eq_true, decide_eq_true_eq]

theorem isChar_of_isStartChar {c : Char} (h : isStartChar c = true) : isChar c = true := by
  rcases isStartChar_iff.1 h with halpha | hunderscore
  · exact isChar_iff.2 (.inl (Bool.or_eq_true_iff.2 (.inl halpha)))
  · exact isChar_iff.2 (.inr hunderscore)

theorem isTypeName_iff {n : Name} : n.isTypeName = true ↔ n.NamesType := by
  have hlegal : n.isLegal = true ↔ n.toList ≠ [] ∧
      (∀ c ∈ n.toList.head?, c.isAlpha = true ∨ c = '_') ∧
      ∀ c ∈ n.toList, c.isAlphanum = true ∨ c = '_' := by
    simp only [← isStartChar_iff, ← isChar_iff]
    rw [isLegal]
    cases n.toList with
    | nil => exact iff_of_false nofun (absurd rfl ·.1)
    | cons c cs =>
      -- What may stand at the front may stand anywhere, so that the first character fits twice.
      simp only [Bool.and_eq_true, List.all_eq_true, ne_eq, reduceCtorEq, not_false_eq_true,
        true_and, List.forall_mem_cons, List.head?_cons, Option.mem_def, Option.some.injEq,
        forall_eq']
      exact ⟨fun h => ⟨h.1, isChar_of_isStartChar h.1, h.2⟩, fun h => ⟨h.1, h.2.2⟩⟩
  have hreserved : (!n.isReserved) = true ↔ ¬ ['_', '_'] <+: n.toList := by
    rw [Bool.not_eq_true', ← Bool.not_eq_true, isReserved, List.isPrefixOf_iff_prefix]
  rw [isTypeName, Bool.and_eq_true, hlegal, hreserved]
  constructor
  · rintro ⟨⟨hnonempty, hfirst, hchars⟩, hunreserved⟩
    exact ⟨hnonempty, hfirst, hchars, hunreserved⟩
  · intro h
    exact ⟨⟨h.nonempty, h.first, h.chars⟩, h.unreserved⟩

end Name

namespace Value

/-- A value is within itself, and within a list if it is within an element. -/
inductive Within : Value → Value → Prop
  | refl (v : Value) : Within v v
  | element {part v : Value} {values : List Value} (hv : v ∈ values) (h : Within part v) :
    Within part (.list values)

/-- A variable or an object; what is within an object does not matter any more. -/
def isOfQuery : Value → Bool
  | var _ | object _ => true
  | int _ | float _ | string _ | boolean _ | null | enum _ | list _ => false

def NeedsQuery (v : Value) : Prop := ∃ part : Value, part.Within v ∧ part.isOfQuery = true

theorem needsQuery_list_iff {values : List Value} :
    (list values).NeedsQuery ↔ ∃ v ∈ values, v.NeedsQuery := by
  constructor
  · rintro ⟨part, hpart, hquery⟩
    cases hpart with
    | refl => cases hquery
    | element hv h => exact ⟨_, hv, part, h, hquery⟩
  · rintro ⟨v, hv, part, hpart, hquery⟩
    exact ⟨part, .element hv hpart, hquery⟩

theorem needsQuery_iff_isOfQuery {v : Value} (hv : ∀ values, v ≠ list values) :
    v.NeedsQuery ↔ v.isOfQuery = true := by
  constructor
  · rintro ⟨part, hpart, hquery⟩
    cases hpart with
    | refl => exact hquery
    | element => exact absurd rfl (hv _)
  · intro hquery
    exact ⟨v, .refl v, hquery⟩

mutual

theorem isPlain_iff : ∀ v : Value, v.isPlain = true ↔ ¬ v.NeedsQuery
  | list values => by
    rw [isPlain, needsQuery_list_iff, arePlain_iff values]
    simp only [not_exists, not_and]
  | var _ | object _ => by
    rw [needsQuery_iff_isOfQuery (by rintro _ ⟨⟩)]
    exact iff_of_false nofun (absurd rfl)
  | int _ | float _ | string _ | boolean _ | null | enum _ => by
    rw [needsQuery_iff_isOfQuery (by rintro _ ⟨⟩)]
    exact iff_of_true rfl nofun

theorem arePlain_iff : ∀ vs : List Value, arePlain vs = true ↔ ∀ v ∈ vs, ¬ v.NeedsQuery
  | [] => iff_of_true rfl nofun
  | v :: vs => by
    rw [arePlain, Bool.and_eq_true, isPlain_iff v, arePlain_iff vs, List.forall_mem_cons]

end

end Value

theorem Directive.isPlain_iff {d : Directive} :
    d.IsPlain ↔ ∀ a ∈ d.arguments, ¬ a.value.NeedsQuery := by
  simp only [IsPlain, Value.isPlain_iff]

/-- The input values that the type defines: the arguments of its fields, or its input fields. -/
def TypeDefinition.inputValues (d : TypeDefinition) : List InputValueDefinition :=
  d.fields.flatMap (·.arguments) ++ d.inputFields

namespace Definition

def inputValues : Definition → List InputValueDefinition
  | type d | extension (.type d) => d.inputValues
  | directive d => d.arguments
  | schema _ | extension (.schema _) | operation _ | fragment _ => []

def isOfSubset : Definition → Bool
  | schema _ | directive _ => true
  | type d => d.kind ≠ .inputObjectTypeDefinition
  | extension _ | operation _ | fragment _ => false

end Definition

/-- Arguments are plain if their defaults and their directives are. -/
theorem InputValueDefinition.forall_isPlain_iff {ds : List InputValueDefinition} :
    (∀ d ∈ ds, d.IsPlain) ↔ (∀ x ∈ ds.flatMap (·.directives), x.IsPlain) ∧
      ∀ d ∈ ds, ∀ v ∈ d.default, ¬ v.NeedsQuery := by
  simp only [IsPlain, Value.isPlain_iff, List.forall_mem_flatMap, ← forall₂_and]
  exact forall₂_congr fun _ _ => and_comm

theorem FieldDefinition.isPlain_iff {d : FieldDefinition} :
    d.IsPlain ↔ (∀ x ∈ d.appliedDirectives, x.IsPlain) ∧
      ∀ a ∈ d.arguments, ∀ v ∈ a.default, ¬ v.NeedsQuery := by
  rw [IsPlain, InputValueDefinition.forall_isPlain_iff, appliedDirectives, List.forall_mem_append]
  exact and_right_comm

theorem TypeDefinition.isSupported_iff {d : TypeDefinition} :
    d.IsSupported ↔ d.kind ≠ .inputObjectTypeDefinition ∧ d.name.NamesType ∧
      (∀ x ∈ d.appliedDirectives, x.IsPlain) ∧
      ∀ a ∈ d.inputValues, ∀ v ∈ a.default, ¬ v.NeedsQuery := by
  simp only [appliedDirectives, inputValues, List.forall_mem_append, List.forall_mem_flatMap]
  constructor
  · intro h
    have hinput := h.inputFields_eq_nil
    have hfields (field) (hfield : field ∈ d.fields) :=
      FieldDefinition.isPlain_iff.1 (h.fields field hfield)
    rw [hinput]
    exact ⟨h.kind, Name.isTypeName_iff.1 h.name,
      ⟨⟨⟨h.directives, fun field hfield => (hfields field hfield).1⟩, h.enumValues⟩,
        List.forall_mem_nil _⟩,
      fun field hfield => (hfields field hfield).2, List.forall_mem_nil _⟩
  · rintro ⟨hkind, hname, ⟨⟨⟨hdirectives, hfields⟩, hvalues⟩, -⟩, harguments, -⟩
    refine ⟨Name.isTypeName_iff.2 hname, hkind, hdirectives, fun field hfield => ?_, hvalues⟩
    exact FieldDefinition.isPlain_iff.2 ⟨hfields field hfield, harguments field hfield⟩

theorem Definition.isSupported_iff {d : Definition} :
    d.IsSupported ↔ d.isOfSubset = true ∧ (∀ t, d = .type t → t.name.NamesType) ∧
      (∀ x ∈ d.appliedDirectives, x.IsPlain) ∧
      ∀ a ∈ d.inputValues, ∀ v ∈ a.default, ¬ v.NeedsQuery := by
  cases d with
  | schema d => simp [IsSupported, isOfSubset, appliedDirectives, inputValues]
  | type d =>
    rw [IsSupported, TypeDefinition.isSupported_iff, isOfSubset, decide_eq_true_eq]
    simp only [Definition.type.injEq, forall_eq', appliedDirectives, inputValues]
  | directive d =>
    have hnames : ∀ t, directive d = type t → t.name.NamesType := by rintro _ ⟨⟩
    rw [IsSupported, InputValueDefinition.forall_isPlain_iff, isOfSubset, and_iff_right rfl,
      and_iff_right hnames, appliedDirectives, inputValues]
  | extension | operation | fragment =>
    refine iff_of_false id ?_
    rintro ⟨⟨⟩, -⟩

/-- What renaming and merging support of definitions, of names of types and of values. -/
structure Document.InSubset (document : Document) : Prop where
  kinds : ∀ d ∈ document.definitions, d.isOfSubset = true
  names : ∀ t ∈ document.types, t.name.NamesType
  arguments : ∀ x ∈ document.appliedDirectives, ∀ a ∈ x.arguments, ¬ a.value.NeedsQuery
  defaults : ∀ d ∈ document.definitions, ∀ a ∈ d.inputValues, ∀ v ∈ a.default, ¬ v.NeedsQuery

theorem Document.checkNodes_eq_ok_iff_inSubset {document : Document} :
    document.checkNodes = .ok () ↔ document.InSubset := by
  rw [checkNodes_eq_ok_iff]
  simp only [Definition.isSupported_iff, Directive.isPlain_iff]
  constructor
  · intro h
    refine ⟨fun d hd => (h d hd).1, fun t ht => (h _ (mem_types.1 ht)).2.1 t rfl, ?_,
      fun d hd => (h d hd).2.2.2⟩
    rw [appliedDirectives, List.forall_mem_flatMap]
    exact fun d hd => (h d hd).2.2.1
  · intro h d hd
    refine ⟨h.kinds d hd, ?_, fun x hx => h.arguments x (List.mem_flatMap_of_mem hd hx),
      h.defaults d hd⟩
    rintro t rfl
    exact h.names t (mem_types.2 hd)

namespace Node

/-- Nodes that may not occur in a schema, and types of other names, each with the fault for which a
document is refused when it is met first. -/
inductive Offends : Node → SchemaFault → Prop
  | inputObject {d : TypeDefinition} (h : d.kind = .inputObjectTypeDefinition) :
    Offends (.typeDefinition d) (.structural (.disallowedNode .inputObjectTypeDefinition))
  | extension (e : Extension) :
    Offends (.extension e) (.structural (.disallowedNode .typeExtension))
  | operation (d : OperationDefinition) :
    Offends (.operationDefinition d) (.structural (.executableNode .operationDefinition))
  | variableDefinition (d : VariableDefinition) :
    Offends (.variableDefinition d) (.structural (.executableNode .variableDefinition))
  | fragment (d : FragmentDefinition) :
    Offends (.fragmentDefinition d) (.structural (.executableNode .fragmentDefinition))
  | selectionSet (scope : List Selection) :
    Offends (.selectionSet scope) (.structural (.executableNode .selectionSet))
  | selection (x : Selection) : Offends (.selection x) (.structural (.executableNode x.kind))
  | value {v : Value} (h : v.isOfQuery = true) :
    Offends (.value v) (.structural (.executableNode v.kind))
  | objectField (n : Name) (v : Value) :
    Offends (.objectField n v) (.structural (.executableNode .objectField))
  | typeName {d : TypeDefinition} (hkind : d.kind ≠ .inputObjectTypeDefinition)
    (hname : ¬ d.name.NamesType) : Offends (.typeDefinition d) (.typeName d.name)

theorem checkSupported_eq_of_offends {node : Node} {fault : SchemaFault}
    (h : node.Offends fault) : node.checkSupported = .error fault := by
  cases h with
  | @inputObject d h =>
    have hkind : (typeDefinition d).kind = .inputObjectTypeDefinition := h
    simp only [checkSupported, hkind]
    rfl
  | @typeName d hkind hname =>
    rw [← Name.isTypeName_iff] at hname
    obtain ⟨description, name, directives, body⟩ := d
    cases body with
    | inputObject => exact absurd rfl hkind
    | _ =>
      simp only [checkSupported, name?, Option.getD_some, hname]
      rfl
  | @value v hquery =>
    cases v with
    | var | object => rfl
    | _ => cases hquery
  | selection x => cases x <;> rfl
  | _ => rfl

theorem isSupported_or_offends (node : Node) : node.IsSupported ∨ ∃ fault, node.Offends fault := by
  cases node with
  | typeDefinition d =>
    rw [isSupported_typeDefinition, Name.isTypeName_iff]
    by_cases hkind : d.kind = .inputObjectTypeDefinition
    · exact .inr ⟨_, .inputObject hkind⟩
    · by_cases hname : d.name.NamesType
      · exact .inl ⟨hname, hkind⟩
      · exact .inr ⟨_, .typeName hkind hname⟩
  | value v =>
    cases v with
    | var | object => exact .inr ⟨_, .value rfl⟩
    | _ => exact .inl rfl
  | typeRef t => exact .inl (isSupported_typeRef t)
  | extension e => exact .inr ⟨_, .extension e⟩
  | operationDefinition d => exact .inr ⟨_, .operation d⟩
  | variableDefinition d => exact .inr ⟨_, .variableDefinition d⟩
  | fragmentDefinition d => exact .inr ⟨_, .fragment d⟩
  | selectionSet scope => exact .inr ⟨_, .selectionSet scope⟩
  | selection x => exact .inr ⟨_, .selection x⟩
  | objectField n v => exact .inr ⟨_, .objectField n v⟩
  | _ => exact .inl rfl

/-- A node is refused for its offence. -/
theorem checkSupported_eq_error_iff {node : Node} {fault : SchemaFault} :
    node.checkSupported = .error fault ↔ node.Offends fault := by
  refine ⟨fun h => ?_, checkSupported_eq_of_offends⟩
  rcases node.isSupported_or_offends with hsupported | ⟨fault', hoffends⟩
  · cases hsupported.symm.trans h
  · cases (checkSupported_eq_of_offends hoffends).symm.trans h
    exact hoffends

theorem isSupported_iff {node : Node} : node.IsSupported ↔ ∀ fault, ¬ node.Offends fault := by
  constructor
  · intro h fault hoffends
    cases h.symm.trans (checkSupported_eq_of_offends hoffends)
  · intro h
    exact node.isSupported_or_offends.resolve_right (not_exists.2 h)

end Node

/-- A document passes if and only if it keeps to the supported subset. Otherwise it is refused for
the first node that offends, in the order of the document. -/
theorem Document.checkNodes_refuses_first_offence (document : Document) :
    (document.checkNodes = .ok () ↔ document.InSubset) ∧
      ∀ fault, document.checkNodes = .error fault ↔ ∃ before node after,
        document.nodes = before ++ node :: after ∧
        (∀ earlier ∈ before, ∀ fault', ¬ earlier.Offends fault') ∧ node.Offends fault := by
  refine ⟨checkNodes_eq_ok_iff_inSubset, fun fault => ?_⟩
  rw [checkNodes, visit, SyntaxTree.visit_onEnter_eq_forM, forM_eq_error_iff]
  simp only [← Node.isSupported_iff, Node.checkSupported_eq_error_iff]
  rfl

/-- A variable in a list is met before the extension behind it. -/
example : (⟨[
    .type ⟨none, "Kind", [⟨"only", [⟨"in", .list [.null, .list [.var "kinds"]]⟩]⟩], .scalar⟩,
    .extension (.type ⟨none, "Kind", [], .scalar⟩)]⟩ : Document).checkNodes =
      .error (.structural (.executableNode .variableUse)) := rfl

end SchemaReshape
