import SchemaReshape.Proofs.Query.Split

/-!
# Queries on a part of a schema

A part of a schema has the same directives and query type, and of the types some, each with some of
its fields, interfaces and members. Whatever passes on the part passes on the whole
(`Schema.checkQuery_of_isPartOf`): a check looks for what there has to be, and never for what there
must not be.
-/

namespace SchemaReshape

open Check

namespace TypeDefinition

variable {d : TypeDefinition}

theorem isObject_iff_kind : d.isObject = true ↔ d.kind = .objectTypeDefinition := by
  obtain ⟨description, name, directives, body⟩ := d
  cases body <;> simp [isObject, kind]

theorem isInterface_iff_kind : d.isInterface = true ↔ d.kind = .interfaceTypeDefinition := by
  obtain ⟨description, name, directives, body⟩ := d
  cases body <;> simp [isInterface, kind]

theorem isComposite_iff_kind : d.isComposite = true ↔ d.kind = .objectTypeDefinition ∨
    d.kind = .interfaceTypeDefinition ∨ d.kind = .unionTypeDefinition := by
  obtain ⟨description, name, directives, body⟩ := d
  cases body <;> simp [isComposite, kind]

/-- The type, apart from some of its fields, interfaces and members. A field that is left is still
the first one of its name. -/
structure IsPartOf (d' d : TypeDefinition) : Prop where
  name : d'.name = d.name
  kind : d'.kind = d.kind
  interfaces : d'.interfaces ⊆ d.interfaces
  members : d'.members ⊆ d.members
  field? : ∀ n field, d'.field? n = some field → d.field? n = some field

theorem IsPartOf.isComposite {d' : TypeDefinition} (h : d'.IsPartOf d) :
    d'.isComposite = d.isComposite := by
  rw [Bool.eq_iff_iff, isComposite_iff_kind, isComposite_iff_kind, h.kind]

end TypeDefinition

namespace Schema

structure IsPartOf (s' s : Schema) : Prop where
  queryType : s'.queryType = s.queryType
  directives : s'.directives = s.directives
  types : ∀ d' ∈ s'.types, ∃ d ∈ s.types, d'.IsPartOf d

namespace IsPartOf

variable {s s' : Schema} (h : s'.IsPartOf s)

include h

theorem directive? (n : Name) : s'.directive? n = s.directive? n := by
  rw [Schema.directive?, h.directives, Schema.directive?]

variable (hs : s.WellFormed)

include hs

theorem exists_type? {n : Name} {d' : TypeDefinition} (hd' : s'.type? n = some d') :
    ∃ d, s.type? n = some d ∧ d'.IsPartOf d := by
  obtain ⟨d, hd, hpart⟩ := h.types d' (mem_types_of_type? hd')
  have hname : d.name = n := hpart.name.symm.trans (name_eq_of_type? hd')
  exact ⟨d, (type?_eq_some_iff hs.types_nodup).2 ⟨hd, hname⟩, hpart⟩

theorem exists_queryDefinition {parent' : TypeDefinition}
    (hparent : s'.queryDefinition? = some parent') :
    ∃ parent, s.queryDefinition? = some parent ∧ parent'.IsPartOf parent := by
  rw [queryDefinition?, h.queryType] at hparent
  exact h.exists_type? hs hparent

/-- A type that is possible in the part is possible in the whole. -/
theorem possibleTypes_subset {n m : Name} (hm : m ∈ s'.possibleTypes n) :
    m ∈ s.possibleTypes n := by
  obtain ⟨d', hd', hpossible⟩ := mem_possibleTypes.1 hm
  obtain ⟨d, hd, hpart⟩ := h.exists_type? hs hd'
  refine mem_possibleTypes.2 ⟨d, hd, ?_⟩
  rcases hpossible with ⟨hobject, rfl⟩ | ⟨hinterface, himplements⟩ | hmember
  · rw [TypeDefinition.isObject_iff_kind, hpart.kind] at hobject
    exact .inl ⟨TypeDefinition.isObject_iff_kind.2 hobject, hpart.name⟩
  · rw [TypeDefinition.isInterface_iff_kind, hpart.kind] at hinterface
    obtain ⟨e', he', hobject, hmem, rfl⟩ := mem_implementers.1 himplements
    obtain ⟨e, he, hepart⟩ := h.types e' he'
    rw [TypeDefinition.isObject_iff_kind, hepart.kind] at hobject
    refine .inr (.inl ⟨TypeDefinition.isInterface_iff_kind.2 hinterface, mem_implementers.2 ?_⟩)
    refine ⟨e, he, TypeDefinition.isObject_iff_kind.2 hobject, ?_, hepart.name.symm⟩
    rw [← hpart.name]
    exact hepart.interfaces hmem
  · exact .inr (.inr (hpart.members hmember))

end IsPartOf

end Schema

namespace QueryContext

/-- The same query on another schema. -/
def withSchema (c : QueryContext) (s : Schema) : QueryContext := { c with schema := s }

variable {c : QueryContext} {s' : Schema}

section Steps

variable (h : s'.IsPartOf c.schema)

include h

theorem checkDirectives_withSchema (directives : List Directive) :
    (c.withSchema s').checkDirectives directives = c.checkDirectives directives := by
  have hdirective : ∀ d, (c.withSchema s').checkDirective d = c.checkDirective d := by
    intro d
    have hdefinition : (c.withSchema s').schema.directive? d.name = c.schema.directive? d.name :=
      h.directive? d.name
    unfold checkDirective
    rw [hdefinition]
    rfl
  rw [checkDirectives, funext hdirective]
  rfl

variable (hc : c.schema.WellFormed) {parent parent' : TypeDefinition}

include hc

theorem exists_conditionType_of_withSchema {name : Name} {type' : TypeDefinition}
    (htype : (c.withSchema s').conditionType name = .ok type') :
    ∃ type, c.conditionType name = .ok type ∧ type'.IsPartOf type := by
  obtain ⟨hfound, hcomposite⟩ := conditionType_eq_ok_iff.1 htype
  obtain ⟨type, htype, hpart⟩ := h.exists_type? hc hfound
  rw [hpart.isComposite] at hcomposite
  exact ⟨type, conditionType_eq_ok_iff.2 ⟨htype, hcomposite⟩, hpart⟩

theorem overlaps_of_withSchema {condition condition' : TypeDefinition}
    (hparent : parent'.IsPartOf parent) (hcondition : condition'.IsPartOf condition)
    (hoverlaps : (c.withSchema s').overlaps parent' condition' = true) :
    c.overlaps parent condition = true := by
  obtain ⟨m, hm, hm'⟩ := SortedSet.meets_iff.1 hoverlaps
  rw [hparent.name] at hm
  rw [hcondition.name] at hm'
  exact SortedSet.meets_iff.2 ⟨m, h.possibleTypes_subset hc hm, h.possibleTypes_subset hc hm'⟩

theorem exists_inlineType_of_withSchema {condition? : Option Name} {type' : TypeDefinition}
    (hparent : parent'.IsPartOf parent)
    (htype : (c.withSchema s').inlineType parent' condition? = .ok type') :
    ∃ type, c.inlineType parent condition? = .ok type ∧ type'.IsPartOf type := by
  cases condition? with
  | none =>
    obtain rfl : parent' = type' := Except.ok.inj htype
    exact ⟨parent, rfl, hparent⟩
  | some name =>
    obtain ⟨hcondition, hoverlaps⟩ := inlineType_some_eq_ok_iff.1 htype
    obtain ⟨type, htype, hpart⟩ := exists_conditionType_of_withSchema h hc hcondition
    have hoverlaps' := overlaps_of_withSchema h hc hparent hpart hoverlaps
    exact ⟨type, inlineType_some_eq_ok_iff.2 ⟨htype, hoverlaps'⟩, hpart⟩

theorem checkSpread_of_withSchema {name : Name} (hparent : parent'.IsPartOf parent)
    (hspread : (c.withSchema s').checkSpread parent' name = .ok ()) :
    c.checkSpread parent name = .ok () := by
  obtain ⟨fragment, condition', hfragment, hcondition, hoverlaps⟩ :=
    checkSpread_eq_ok_iff.1 hspread
  obtain ⟨condition, hcondition, hpart⟩ := exists_conditionType_of_withSchema h hc hcondition
  have hoverlaps' := overlaps_of_withSchema h hc hparent hpart hoverlaps
  exact checkSpread_eq_ok_iff.2 ⟨fragment, condition, hfragment, hcondition, hoverlaps'⟩

theorem exists_scopeType?_of_withSchema {definition : FieldDefinition} {type' : TypeDefinition}
    (htype : (c.withSchema s').scopeType? definition = .ok (some type')) :
    ∃ type, c.scopeType? definition = .ok (some type) ∧ type'.IsPartOf type := by
  obtain ⟨hfound, hcomposite⟩ := scopeType?_eq_some_iff.1 htype
  obtain ⟨type, htype, hpart⟩ := h.exists_type? hc hfound
  rw [hpart.isComposite] at hcomposite
  exact ⟨type, scopeType?_eq_some_iff.2 ⟨htype, hcomposite⟩, hpart⟩

theorem scopeType?_eq_none_of_withSchema {definition : FieldDefinition}
    (htype : (c.withSchema s').scopeType? definition = .ok none) :
    c.scopeType? definition = .ok none := by
  rcases scopeType?_eq_none_iff.1 htype with ⟨-, hbuiltin⟩ | ⟨type', hfound, hleaf⟩
  · exact scopeType?_eq_none_iff.2 (.inl ⟨hc.type?_eq_none_of_builtin hbuiltin, hbuiltin⟩)
  · obtain ⟨type, htype, hpart⟩ := h.exists_type? hc hfound
    rw [hpart.isComposite] at hleaf
    exact scopeType?_eq_none_iff.2 (.inr ⟨type, htype, hleaf⟩)

end Steps

mutual

theorem checkSelection_of_withSchema (h : s'.IsPartOf c.schema) (hc : c.schema.WellFormed) :
    ∀ (x : Selection) {parent parent' : TypeDefinition}, parent'.IsPartOf parent →
      (c.withSchema s').checkSelection parent' x = .ok () → c.checkSelection parent x = .ok ()
  | .field head selections, parent, parent', hparent, hx => by
    rw [checkSelection_field_iff, checkDirectives_withSchema h] at hx
    obtain ⟨hdirectives, hx⟩ := hx
    refine checkSelection_field_iff.2 ⟨hdirectives, ?_⟩
    rcases hx with hname | ⟨hname, definition, hdefinition, harguments, hbelow⟩
    · exact .inl hname
    · -- The parent is part of the check only for the message.
      have harguments' : c.checkFieldArguments parent definition head = .ok () := by
        rw [checkFieldArguments_eq_ok_iff] at harguments ⊢
        exact harguments
      refine .inr ⟨hname, definition, hparent.field? _ _ hdefinition, harguments', ?_⟩
      rcases hbelow with ⟨htype, hnil⟩ | ⟨type', htype, hne, hscope⟩
      · exact .inl ⟨scopeType?_eq_none_of_withSchema h hc htype, hnil⟩
      · obtain ⟨type, htype, hpart⟩ := exists_scopeType?_of_withSchema h hc htype
        exact .inr ⟨type, htype, hne, checkScope_of_withSchema h hc selections hpart hscope⟩
  | .fragmentSpread name directives, parent, parent', hparent, hx => by
    rw [checkSelection_fragmentSpread_iff, checkDirectives_withSchema h] at hx
    obtain ⟨hdirectives, hspread⟩ := hx
    have hspread' := checkSpread_of_withSchema h hc hparent hspread
    exact checkSelection_fragmentSpread_iff.2 ⟨hdirectives, hspread'⟩
  | .inlineFragment condition? directives selections, parent, parent', hparent, hx => by
    rw [checkSelection_inlineFragment_iff, checkDirectives_withSchema h] at hx
    obtain ⟨hdirectives, type', htype, hscope⟩ := hx
    obtain ⟨type, htype, hpart⟩ := exists_inlineType_of_withSchema h hc hparent htype
    have hscope' := checkScope_of_withSchema h hc selections hpart hscope
    exact checkSelection_inlineFragment_iff.2 ⟨hdirectives, type, htype, hscope'⟩

theorem checkScope_of_withSchema (h : s'.IsPartOf c.schema) (hc : c.schema.WellFormed) :
    ∀ (xs : List Selection) {parent parent' : TypeDefinition}, parent'.IsPartOf parent →
      (c.withSchema s').checkScope parent' xs = .ok () → c.checkScope parent xs = .ok ()
  | [], _, _, _, _ => rfl
  | x :: xs, _, _, hparent, hxs => by
    rw [checkScope_cons, bind_unit_eq_ok_iff] at hxs ⊢
    exact ⟨checkSelection_of_withSchema h hc x hparent hxs.1,
      checkScope_of_withSchema h hc xs hparent hxs.2⟩

end

theorem checkFragment_of_withSchema (h : s'.IsPartOf c.schema) (hc : c.schema.WellFormed)
    {fragment : FragmentDefinition}
    (hfragment : (c.withSchema s').checkFragment fragment = .ok ()) :
    c.checkFragment fragment = .ok () := by
  rw [checkFragment_eq_ok_iff, checkDirectives_withSchema h] at hfragment
  obtain ⟨parent', hparent, hdirectives, hscope⟩ := hfragment
  obtain ⟨parent, hparent, hpart⟩ := exists_conditionType_of_withSchema h hc hparent
  have hscope' := checkScope_of_withSchema h hc fragment.selections hpart hscope
  exact checkFragment_eq_ok_iff.2 ⟨parent, hparent, hdirectives, hscope'⟩

end QueryContext

namespace Schema

variable {s s' : Schema} (h : s'.IsPartOf s) (hs : s.WellFormed) {query : Document}

include h hs

/-- A query that is valid on a part of a schema is valid on the schema. -/
theorem checkQuery_of_isPartOf (hquery : s'.checkQuery query = .ok ()) :
    s.checkQuery query = .ok () := by
  obtain ⟨operation, hoperations, hkind, hoperation⟩ := checkQuery_eq_ok_iff.1 hquery
  refine checkQuery_eq_ok_iff.2 ⟨operation, hoperations, hkind, ?_⟩
  have hc : (s'.queryContext query operation) =
      (s.queryContext query operation).withSchema s' := rfl
  rw [checkOperation_eq_ok_iff, hc, QueryContext.checkDirectives_withSchema h] at hoperation
  obtain ⟨parent', hparent, hdirectives, hscope, hfragments, hused⟩ := hoperation
  obtain ⟨parent, hparent, hpart⟩ := h.exists_queryDefinition hs hparent
  have hscope' := QueryContext.checkScope_of_withSchema h hs operation.selections hpart hscope
  have hfragments' : ∀ fragment ∈ query.fragments,
      (s.queryContext query operation).checkFragment fragment = .ok () := by
    intro fragment hfragment
    exact QueryContext.checkFragment_of_withSchema h hs (hfragments fragment hfragment)
  exact checkOperation_eq_ok_iff.2 ⟨parent, hparent, hdirectives, hscope', hfragments', hused⟩

theorem checkSplittable_of_isPartOf {settings : Settings}
    (hquery : s'.checkSplittable query settings = .ok ()) :
    s.checkSplittable query settings = .ok () := by
  rw [checkSplittable_eq_ok_iff] at hquery ⊢
  exact ⟨checkQuery_of_isPartOf h hs hquery.1, hquery.2⟩

end Schema

end SchemaReshape
