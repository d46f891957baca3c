import SchemaReshape.Proofs.Query.Arguments
import SchemaReshape.Proofs.Query.Split

/-!
# The rules for queries

What makes a query valid, said without the check of it. The type that a selection occurs on allows
it or not (`Schema.Allows`), and directives and arguments are applied well or not, on whatever type
(`Schema.WellApplied`). Unless two fragments have the same name, to pass the check is to follow
these rules at every depth (`Schema.checkQuery_eq_ok_iff_isTyped`).
-/

namespace SchemaReshape

open Check

namespace Schema

/-- The name of a composite type that has a possible type in common with the owner. -/
def Narrows (s : Schema) (owner : TypeDefinition) (n : Name) : Prop :=
  s.NamesComposite n ∧ ∃ k, k ∈ s.possibleTypes owner.name ∧ k ∈ s.possibleTypes n

/-- What may be selected on a type, as far as a look at the selection alone can tell. -/
inductive Allows (s : Schema) (fragments : List FragmentDefinition) (owner : TypeDefinition) :
    Selection → Prop where
  | typeName {head : FieldHead} (hname : head.name = Name.typeName) :
      Allows s fragments owner (.field head [])
  | field {head : FieldHead} {selections : List Selection} {definition : FieldDefinition}
      (hname : head.name ≠ Name.typeName) (hdefinition : owner.field? head.name = some definition)
      (harguments : Argument.Fit definition.arguments head.arguments)
      (hbelow : s.NamesComposite definition.type.baseName ↔ selections ≠ []) :
      Allows s fragments owner (.field head selections)
  | fragmentSpread {fragment : FragmentDefinition} {directives : List Directive}
      (hfragment : fragment ∈ fragments) (hnarrows : s.Narrows owner fragment.condition) :
      Allows s fragments owner (.fragmentSpread fragment.name directives)
  | inlineFragment {condition? : Option Name} {directives : List Directive}
      {selections : List Selection} (hnarrows : ∀ n ∈ condition?, s.Narrows owner n) :
      Allows s fragments owner (.inlineFragment condition? directives selections)

def AppliesAll (s : Schema) (operation : OperationDefinition) (directives : List Directive) :
    Prop :=
  ∀ d ∈ directives, s.Fits d ∧ ∀ a ∈ d.arguments, operation.Defines a

/-- Apart from the arguments of the field that every composite type has, which are not looked at. -/
structure WellApplied (s : Schema) (operation : OperationDefinition) (x : Selection) : Prop where
  directives : s.AppliesAll operation x.directives
  arguments : x.isTypeName = false → ∀ a ∈ x.arguments, operation.Defines a

/-- The operation is alone and a query, and all that it and the fragments select is allowed on the
type that it is selected on. -/
structure IsTyped (s : Schema) (query : Document) (operation : OperationDefinition) : Prop where
  operations : query.operations = [operation]
  kind : operation.kind = .query
  selections : s.ForallOccurs (s.Allows query.fragments) s.queryDefinition? operation.selections
  conditions : ∀ fragment ∈ query.fragments, s.NamesComposite fragment.condition
  fragments : ∀ fragment ∈ query.fragments,
    s.ForallOccurs (s.Allows query.fragments) (s.type? fragment.condition) fragment.selections

/-- Every fragment is spread somewhere, and what is applied is applied well. -/
structure IsApplied (s : Schema) (query : Document) (operation : OperationDefinition) : Prop where
  spread : ∀ fragment ∈ query.fragments, ∃ directives,
    .selection (.fragmentSpread fragment.name directives) ∈ query.nodes
  directives : s.AppliesAll operation operation.directives
  fragments : ∀ fragment ∈ query.fragments, s.AppliesAll operation fragment.directives
  selections : ∀ x, .selection x ∈ query.nodes → s.WellApplied operation x

end Schema

namespace QueryContext

variable {c : QueryContext} {owner : TypeDefinition}

/-- What the check asks of a selection, but for what is below it. -/
def Accepts (c : QueryContext) (owner : TypeDefinition) (x : Selection) : Prop :=
  c.schema.Allows c.fragments owner x ∧ c.checkDirectives x.directives = .ok () ∧
    (x.isTypeName = false → c.checkVariables x.arguments = .ok ())

theorem fragment?_eq_some_iff (hdistinct : (c.fragments.map (·.name)).Nodup) {name : Name}
    {fragment : FragmentDefinition} :
    c.fragment? name = some fragment ↔ fragment ∈ c.fragments ∧ fragment.name = name := by
  have hreverse : (c.fragments.reverse.map (·.name)).Nodup := by
    rw [List.map_reverse]
    exact List.nodup_reverse.2 hdistinct
  rw [fragment?, List.findRev?_eq_find?_reverse, Schema.find?_eq_some_iff_of_nodup hreverse,
    List.mem_reverse]

theorem exists_overlaps_iff {n : Name} :
    (∃ condition, c.conditionType n = .ok condition ∧ c.overlaps owner condition = true) ↔
      c.schema.Narrows owner n := by
  simp only [conditionType_eq_ok_iff, overlaps, SortedSet.meets_iff]
  constructor
  · rintro ⟨condition, hcondition, k, hk, hk'⟩
    rw [Schema.name_eq_of_type? hcondition.1] at hk'
    exact ⟨⟨condition, hcondition⟩, k, hk, hk'⟩
  · rintro ⟨⟨condition, hcondition⟩, k, hk, hk'⟩
    rw [← Schema.name_eq_of_type? hcondition.1] at hk'
    exact ⟨condition, hcondition, k, hk, hk'⟩

theorem checkSpread_eq_ok_iff_narrows (hdistinct : (c.fragments.map (·.name)).Nodup)
    {name : Name} :
    c.checkSpread owner name = .ok () ↔
      ∃ fragment ∈ c.fragments, fragment.name = name ∧
        c.schema.Narrows owner fragment.condition := by
  simp only [checkSpread_eq_ok_iff, fragment?_eq_some_iff hdistinct, ← exists_overlaps_iff]
  constructor
  · rintro ⟨fragment, condition, ⟨hfragment, hname⟩, hnarrows⟩
    exact ⟨fragment, hfragment, hname, condition, hnarrows⟩
  · rintro ⟨fragment, hfragment, hname, condition, hnarrows⟩
    exact ⟨fragment, condition, ⟨hfragment, hname⟩, hnarrows⟩

theorem exists_scopeType?_eq_some_iff {definition : FieldDefinition} :
    (∃ type, c.scopeType? definition = .ok (some type)) ↔
      c.schema.NamesComposite definition.type.baseName :=
  exists_congr fun _ => scopeType?_eq_some_iff

theorem scopeType?_eq_none_of_not_composite (hc : c.schema.WellFormed)
    (howner : owner ∈ c.schema.types) {name : Name} {definition : FieldDefinition}
    (hdefinition : owner.field? name = some definition)
    (hnot : ¬ c.schema.NamesComposite definition.type.baseName) :
    c.scopeType? definition = .ok none := by
  have hmem : definition ∈ owner.fields := List.mem_of_find?_eq_some hdefinition
  have hdefined : c.schema.isDefined definition.type.baseName = true :=
    (hc.types_resolve owner howner).fields definition hmem _ List.mem_cons_self
  rw [scopeType?_eq_none_iff]
  rcases Bool.or_eq_true_iff.1 hdefined with hbuiltin | hfound
  · exact .inl ⟨hc.type?_eq_none_of_builtin hbuiltin, hbuiltin⟩
  · obtain ⟨type, htype⟩ := Option.isSome_iff_exists.1 hfound
    refine .inr ⟨type, htype, Bool.eq_false_iff.2 fun hcomposite => hnot ⟨type, htype, hcomposite⟩⟩

/-- What passes the check is allowed. -/
theorem allows_of_checkSelection (hdistinct : (c.fragments.map (·.name)).Nodup) {x : Selection}
    (h : c.checkSelection owner x = .ok ()) : c.schema.Allows c.fragments owner x := by
  cases x with
  | field head selections =>
    obtain ⟨-, ⟨hname, rfl⟩ | ⟨hname, definition, hdefinition, harguments, hbelow⟩⟩ :=
      checkSelection_field_iff.1 h
    · exact .typeName hname
    · obtain ⟨hunknown, hmissing, -⟩ := checkFieldArguments_eq_ok_iff.1 harguments
      refine .field hname hdefinition (Argument.fit_iff.2 ⟨hunknown, hmissing⟩) ?_
      rw [← exists_scopeType?_eq_some_iff]
      rcases hbelow with ⟨htype, rfl⟩ | ⟨type, htype, hne, -⟩
      · simp [htype]
      · exact iff_of_true ⟨type, htype⟩ hne
  | fragmentSpread name directives =>
    obtain ⟨-, hspread⟩ := checkSelection_fragmentSpread_iff.1 h
    obtain ⟨fragment, hfragment, rfl, hnarrows⟩ :=
      (checkSpread_eq_ok_iff_narrows hdistinct).1 hspread
    exact .fragmentSpread hfragment hnarrows
  | inlineFragment condition? directives selections =>
    obtain ⟨-, type, htype, -⟩ := checkSelection_inlineFragment_iff.1 h
    refine .inlineFragment fun n hn => ?_
    obtain rfl : condition? = some n := hn
    exact exists_overlaps_iff.1 ⟨type, inlineType_some_eq_ok_iff.1 htype⟩

theorem accepts_of_checkSelection (hdistinct : (c.fragments.map (·.name)).Nodup) {x : Selection}
    (h : c.checkSelection owner x = .ok ()) : c.Accepts owner x := by
  obtain ⟨hdirectives, harguments⟩ := checks_of_checkSelection h
  exact ⟨allows_of_checkSelection hdistinct h, checkDirectives_eq_ok_iff.2 hdirectives, harguments⟩

section Complete

variable (hc : c.schema.WellFormed) (hdistinct : (c.fragments.map (·.name)).Nodup)

include hc in
theorem checkSelection_field_of_accepts (howner : owner ∈ c.schema.types) {head : FieldHead}
    {selections : List Selection} (h : c.Accepts owner (.field head selections))
    (hscope : ∀ type ∈ c.schema.types, c.schema.typeBelow? (some owner) head.name = some type →
      c.checkScope type selections = .ok ()) :
    c.checkSelection owner (.field head selections) = .ok () := by
  obtain ⟨hallows, hdirectives, hvariables⟩ := h
  refine checkSelection_field_iff.2 ⟨hdirectives, ?_⟩
  cases hallows with
  | typeName hname => exact .inl ⟨hname, rfl⟩
  | @field _ _ definition hname hdefinition harguments hbelow =>
    obtain ⟨hunknown, hmissing⟩ := Argument.fit_iff.1 harguments
    have hnot : (Selection.field head selections).isTypeName = false := by
      simpa [Selection.isTypeName] using hname
    have hchecked : c.checkFieldArguments owner definition head = .ok () :=
      checkFieldArguments_eq_ok_iff.2 ⟨hunknown, hmissing, hvariables hnot⟩
    refine .inr ⟨hname, definition, hdefinition, hchecked, ?_⟩
    by_cases hne : selections = []
    · have hleaf := scopeType?_eq_none_of_not_composite hc howner hdefinition
        fun hcomposite => hbelow.1 hcomposite hne
      exact .inl ⟨hleaf, hne⟩
    · obtain ⟨type, htype, hcomposite⟩ := hbelow.2 hne
      have hfound : c.schema.typeBelow? (some owner) head.name = some type :=
        (Schema.typeBelow?_of_field? hdefinition).trans htype
      exact .inr ⟨type, scopeType?_eq_some_iff.2 ⟨htype, hcomposite⟩, hne,
        hscope type (Schema.mem_types_of_type? htype) hfound⟩

include hdistinct in
theorem checkSelection_fragmentSpread_of_accepts {name : Name} {directives : List Directive}
    (h : c.Accepts owner (.fragmentSpread name directives)) :
    c.checkSelection owner (.fragmentSpread name directives) = .ok () := by
  obtain ⟨hallows, hdirectives, -⟩ := h
  refine checkSelection_fragmentSpread_iff.2 ⟨hdirectives, ?_⟩
  cases hallows with
  | @fragmentSpread fragment _ hfragment hnarrows =>
    exact (checkSpread_eq_ok_iff_narrows hdistinct).2 ⟨fragment, hfragment, rfl, hnarrows⟩

theorem checkSelection_inlineFragment_of_accepts (howner : owner ∈ c.schema.types)
    {condition? : Option Name} {directives : List Directive} {selections : List Selection}
    (h : c.Accepts owner (.inlineFragment condition? directives selections))
    (hscope : ∀ type ∈ c.schema.types, c.schema.typeWithin? (some owner) condition? = some type →
      c.checkScope type selections = .ok ()) :
    c.checkSelection owner (.inlineFragment condition? directives selections) = .ok () := by
  obtain ⟨hallows, hdirectives, -⟩ := h
  refine checkSelection_inlineFragment_iff.2 ⟨hdirectives, ?_⟩
  cases hallows with
  | inlineFragment hnarrows =>
    cases condition? with
    | none => exact ⟨owner, rfl, hscope owner howner rfl⟩
    | some name =>
      obtain ⟨condition, hcondition⟩ := exists_overlaps_iff.2 (hnarrows name rfl)
      have htype : c.schema.type? name = some condition :=
        (conditionType_eq_ok_iff.1 hcondition.1).1
      exact ⟨condition, inlineType_some_eq_ok_iff.2 hcondition,
        hscope condition (Schema.mem_types_of_type? htype) htype⟩

end Complete

mutual

theorem checkSelection_of_forallOccurs (hc : c.schema.WellFormed)
    (hdistinct : (c.fragments.map (·.name)).Nodup) :
    ∀ (x : Selection) {owner : TypeDefinition}, owner ∈ c.schema.types →
      c.schema.ForallOccurs c.Accepts (some owner) [x] → c.checkSelection owner x = .ok ()
  | .field head selections, owner, howner, h => by
    refine checkSelection_field_of_accepts hc howner (h.of_mem List.mem_cons_self) ?_
    intro type hmem htype
    have hbelow := h.belowField List.mem_cons_self
    rw [htype] at hbelow
    exact checkScope_of_forallOccurs hc hdistinct selections hmem hbelow
  | .fragmentSpread name directives, owner, _, h =>
    checkSelection_fragmentSpread_of_accepts hdistinct (h.of_mem List.mem_cons_self)
  | .inlineFragment condition? directives selections, owner, howner, h => by
    refine checkSelection_inlineFragment_of_accepts howner (h.of_mem List.mem_cons_self) ?_
    intro type hmem htype
    have hwithin := h.withinFragment List.mem_cons_self
    rw [htype] at hwithin
    exact checkScope_of_forallOccurs hc hdistinct selections hmem hwithin

/-- A scope passes if all that occurs in it is accepted. -/
theorem checkScope_of_forallOccurs (hc : c.schema.WellFormed)
    (hdistinct : (c.fragments.map (·.name)).Nodup) :
    ∀ (xs : List Selection) {owner : TypeDefinition}, owner ∈ c.schema.types →
      c.schema.ForallOccurs c.Accepts (some owner) xs → c.checkScope owner xs = .ok ()
  | [], _, _, _ => rfl
  | x :: xs, owner, howner, h => by
    have hhead := h.mono (List.cons_subset_cons x (List.nil_subset xs))
    have htail := h.mono (List.subset_cons_self x xs)
    rw [checkScope_cons, bind_unit_eq_ok_iff]
    exact ⟨checkSelection_of_forallOccurs hc hdistinct x howner hhead,
      checkScope_of_forallOccurs hc hdistinct xs howner htail⟩

end

theorem checkScope_eq_ok_iff_forallOccurs (hc : c.schema.WellFormed)
    (hdistinct : (c.fragments.map (·.name)).Nodup) (howner : owner ∈ c.schema.types)
    {scope : List Selection} :
    c.checkScope owner scope = .ok () ↔ c.schema.ForallOccurs c.Accepts (some owner) scope := by
  refine ⟨fun h owner? x hx => ?_, checkScope_of_forallOccurs hc hdistinct scope howner⟩
  obtain ⟨owner', howner', hchecked⟩ := checkSelection_of_occurs hx rfl h
  exact ⟨owner', howner', accepts_of_checkSelection hdistinct hchecked⟩

end QueryContext

namespace Document

variable {query : Document}

theorem mem_nodes_selection_iff {x : Selection} :
    .selection x ∈ query.nodes ↔
      (∃ d ∈ query.operations, .selection x ∈ (Selection.scopeTree d.selections).nodes) ∨
        ∃ d ∈ query.fragments, .selection x ∈ (Selection.scopeTree d.selections).nodes := by
  refine ⟨exists_scope_of_mem_nodes, fun h => ?_⟩
  rcases h with ⟨d, hd, hx⟩ | ⟨d, hd, hx⟩
  · exact mem_nodes_of_operation hd hx
  · exact mem_nodes_of_fragment hd hx

variable {operation : OperationDefinition} (hoperations : query.operations = [operation])

include hoperations

theorem forall_selections_iff {R : Selection → Prop} :
    (∀ x, .selection x ∈ query.nodes → R x) ↔
      (∀ x, .selection x ∈ (Selection.scopeTree operation.selections).nodes → R x) ∧
        ∀ fragment ∈ query.fragments,
          ∀ x, .selection x ∈ (Selection.scopeTree fragment.selections).nodes → R x := by
  simp only [mem_nodes_selection_iff, hoperations, List.mem_singleton, exists_eq_left]
  constructor
  · intro h
    exact ⟨fun x hx => h x (.inl hx), fun d hd x hx => h x (.inr ⟨d, hd, hx⟩)⟩
  · rintro ⟨hoperation, hfragments⟩ x (hx | ⟨d, hd, hx⟩)
    · exact hoperation x hx
    · exact hfragments d hd x hx

theorem mem_spreads_iff (s : Schema) {name : Name} :
    name ∈ (s.queryContext query operation).spreads operation ↔
      ∃ directives, .selection (.fragmentSpread name directives) ∈ query.nodes := by
  have hcontext : (s.queryContext query operation).fragments = query.fragments := rfl
  rw [QueryContext.spreads, List.mem_append, List.mem_flatMap, hcontext]
  simp only [s.mem_scopeSpreads_iff_mem_nodes, mem_nodes_selection_iff, hoperations,
    List.mem_singleton, exists_eq_left, exists_or]
  refine or_congr Iff.rfl ?_
  constructor
  · rintro ⟨fragment, hfragment, directives, hx⟩
    exact ⟨directives, fragment, hfragment, hx⟩
  · rintro ⟨directives, fragment, hfragment, hx⟩
    exact ⟨fragment, hfragment, directives, hx⟩

end Document

namespace Schema

variable {s : Schema} {query : Document} {operation : OperationDefinition} (hs : s.WellFormed)
variable (hdistinct : (query.fragments.map (·.name)).Nodup)

include hs

theorem accepts_queryContext_iff {owner : TypeDefinition} {x : Selection} :
    (s.queryContext query operation).Accepts owner x ↔
      s.Allows query.fragments owner x ∧ s.WellApplied operation x := by
  unfold QueryContext.Accepts
  rw [checkDirectives_queryContext_iff hs, checkVariables_queryContext_iff]
  refine and_congr_right fun _ => ?_
  constructor
  · rintro ⟨hdirectives, harguments⟩
    exact ⟨hdirectives, harguments⟩
  · intro h
    exact ⟨h.directives, h.arguments⟩

include hdistinct

theorem checkScope_queryContext_iff {owner : TypeDefinition} (howner : owner ∈ s.types)
    {scope : List Selection} :
    (s.queryContext query operation).checkScope owner scope = .ok () ↔
      s.ForallOccurs (s.Allows query.fragments) (some owner) scope ∧
        ∀ x, .selection x ∈ (Selection.scopeTree scope).nodes → s.WellApplied operation x := by
  rw [QueryContext.checkScope_eq_ok_iff_forallOccurs hs hdistinct howner, ← forallOccurs_and_iff]
  refine forall₃_congr fun owner? x _ => exists_congr fun owner => and_congr_right fun _ => ?_
  exact accepts_queryContext_iff hs

theorem checkFragment_queryContext_iff {fragment : FragmentDefinition} :
    (s.queryContext query operation).checkFragment fragment = .ok () ↔
      (s.NamesComposite fragment.condition ∧ s.ForallOccurs (s.Allows query.fragments)
        (s.type? fragment.condition) fragment.selections) ∧
      s.AppliesAll operation fragment.directives ∧
      ∀ x, .selection x ∈ (Selection.scopeTree fragment.selections).nodes →
        s.WellApplied operation x := by
  rw [QueryContext.checkFragment_eq_ok_iff]
  simp only [QueryContext.conditionType_eq_ok_iff, checkDirectives_queryContext_iff hs]
  constructor
  · rintro ⟨owner, ⟨htype, hcomposite⟩, hdirectives, hscope⟩
    have hmem : owner ∈ s.types := mem_types_of_type? htype
    obtain ⟨hallows, happlied⟩ := (checkScope_queryContext_iff hs hdistinct hmem).1 hscope
    exact ⟨⟨⟨owner, htype, hcomposite⟩, htype ▸ hallows⟩, hdirectives, happlied⟩
  · rintro ⟨⟨⟨owner, htype, hcomposite⟩, hallows⟩, hdirectives, happlied⟩
    have hmem : owner ∈ s.types := mem_types_of_type? htype
    rw [htype] at hallows
    have hscope := (checkScope_queryContext_iff hs hdistinct hmem).2 ⟨hallows, happlied⟩
    exact ⟨owner, ⟨htype, hcomposite⟩, hdirectives, hscope⟩

theorem checkOperation_eq_ok_iff_isTyped (hoperations : query.operations = [operation])
    (hkind : operation.kind = .query) :
    s.checkOperation query operation = .ok () ↔
      s.IsTyped query operation ∧ s.IsApplied query operation := by
  obtain ⟨parent, hparent, -⟩ := hs.queryType_object
  have hmem : parent ∈ s.types := mem_types_of_type? hparent
  have hquery : s.queryDefinition? = some parent := hparent
  rw [checkOperation_eq_ok_iff]
  simp only [hquery, Option.some.injEq, exists_eq_left', checkDirectives_queryContext_iff hs,
    checkScope_queryContext_iff hs hdistinct hmem, checkFragment_queryContext_iff hs hdistinct,
    Document.mem_spreads_iff hoperations]
  constructor
  · rintro ⟨hdirectives, ⟨hallows, happlied⟩, hfragments, hspread⟩
    have hselections := (Document.forall_selections_iff hoperations).2
      ⟨happlied, fun fragment hfragment => (hfragments fragment hfragment).2.2⟩
    have htyped : s.IsTyped query operation :=
      ⟨hoperations, hkind, hquery ▸ hallows,
        fun fragment hfragment => (hfragments fragment hfragment).1.1,
        fun fragment hfragment => (hfragments fragment hfragment).1.2⟩
    exact ⟨htyped, hspread, hdirectives,
      fun fragment hfragment => (hfragments fragment hfragment).2.1, hselections⟩
  · rintro ⟨htyped, happlied⟩
    obtain ⟨hoperation, hfragments⟩ :=
      (Document.forall_selections_iff hoperations).1 happlied.selections
    have hallows := htyped.selections
    rw [hquery] at hallows
    refine ⟨happlied.directives, ⟨hallows, hoperation⟩, fun fragment hfragment => ?_,
      happlied.spread⟩
    exact ⟨⟨htyped.conditions fragment hfragment, htyped.fragments fragment hfragment⟩,
      happlied.fragments fragment hfragment, hfragments fragment hfragment⟩

omit hs in
/-- The check of a query accepts exactly the documents that follow the rules, if no two fragments
have the same name. -/
theorem checkQuery_eq_ok_iff_isTyped {document : Document} (hs : document.supportedSchema = .ok s) :
    s.checkQuery query = .ok () ↔
      ∃ operation, s.IsTyped query operation ∧ s.IsApplied query operation := by
  have hwell := (Document.supportedSchema_eq_ok_iff.1 hs).wellFormed
  rw [checkQuery_eq_ok_iff]
  constructor
  · rintro ⟨operation, hoperations, hkind, hoperation⟩
    exact ⟨operation,
      (checkOperation_eq_ok_iff_isTyped hwell hdistinct hoperations hkind).1 hoperation⟩
  · rintro ⟨operation, htyped, happlied⟩
    refine ⟨operation, htyped.operations, htyped.kind, ?_⟩
    exact (checkOperation_eq_ok_iff_isTyped hwell hdistinct htyped.operations htyped.kind).2
      ⟨htyped, happlied⟩

end Schema

namespace Sample

/-- The names of all dogs and, in a fragment that applies to more, of their owners. The field of the
pets and the directive at it ask for an argument each. -/
def namedPets : Document :=
  ⟨[.operation ⟨.query, none, [⟨"kind", .nonNull (.named "Kind"), none, []⟩], [],
      [.field ⟨none, "Person", [], []⟩ [.fragmentSpread "named" [],
        .field ⟨none, "pet", [⟨"kind", .var "kind"⟩], [⟨"output", [⟨"name", .string "pet"⟩]⟩]⟩
          [.inlineFragment (some "Dog") [] [
            .fragmentSpread "named" [], .field ⟨none, "__typename", [], []⟩ []]]]]⟩,
    .fragment ⟨"named", "Named", [], [.field ⟨none, "name", [], []⟩ []]⟩]⟩

theorem isTyped_namedPets : ∃ s, pets.supportedSchema = .ok s ∧
    (namedPets.fragments.map (·.name)).Nodup ∧ s.checkQuery namedPets = .ok () ∧
    (s.checkQuery namedPets = .ok () ↔
      ∃ operation, s.IsTyped namedPets operation ∧ s.IsApplied namedPets operation) :=
  have hs : pets.supportedSchema = .ok _ := rfl
  ⟨_, hs, by decide, rfl, Schema.checkQuery_eq_ok_iff_isTyped (by decide) hs⟩

end Sample

end SchemaReshape
