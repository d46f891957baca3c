import SchemaReshape.Proofs.Rename.FormerNames
import SchemaReshape.Proofs.Rename.Leftovers
import SchemaReshape.Proofs.Rename.Validity

/-!
# Two plans in turn

`Plan.Composes` says of a plan that on the types of a schema it does at once what two plans do one
after the other, the second one speaking of the names that the first one gives. What the schema and
its renamed schema admit of the two, the schema admits of the one (`Plan.Composes.admits`), and the
definitions that it makes are the same (`Plan.Composes.applyDefinitions_eq`).
-/

namespace SchemaReshape

namespace Plan

variable {p p' q : Plan}

theorem applyRef_applyRef {t : TypeRef}
    (h : q.newName t.baseName = p'.newName (p.newName t.baseName)) :
    p'.applyRef (p.applyRef t) = q.applyRef t := by
  induction t with
  | named n => rw [applyRef_named, applyRef_named, applyRef_named]; exact congrArg _ h.symm
  | list t ih => rw [applyRef_list, applyRef_list, applyRef_list, ih h]
  | nonNull t ih => rw [applyRef_nonNull, applyRef_nonNull, applyRef_nonNull, ih h]

theorem map_applyInput_applyInput {ds : List InputValueDefinition}
    (h : ∀ n ∈ ds.map (·.type.baseName), q.newName n = p'.newName (p.newName n)) :
    (ds.map p.applyInput).map p'.applyInput = ds.map q.applyInput := by
  rw [List.map_map]
  refine List.map_congr_left fun d hd => ?_
  have htype := applyRef_applyRef (h _ (List.mem_map_of_mem hd))
  exact congrArg (fun type => { d with type := type }) htype

theorem applyField_applyField {named : Bool} {field : FieldDefinition}
    (hname : named = true → q.newName field.name = p'.newName (p.newName field.name))
    (h : ∀ n ∈ field.references, q.newName n = p'.newName (p.newName n)) :
    p'.applyField named (p.applyField named field) = q.applyField named field := by
  obtain ⟨hbase, harguments⟩ := List.forall_mem_cons.1 h
  have htype := applyRef_applyRef hbase
  have harguments' := map_applyInput_applyInput harguments
  cases named with
  | true =>
    have hname' := (hname rfl).symm
    simp only [applyField_eq_mk, if_true, htype, harguments', hname']
  | false =>
    simp only [applyField_eq_mk, Bool.false_eq_true, if_false, htype, harguments']

theorem applyDirective_applyDirective {d : DirectiveDefinition}
    (h : ∀ n ∈ d.references, q.newName n = p'.newName (p.newName n)) :
    p'.applyDirective (p.applyDirective d) = q.applyDirective d := by
  simp only [applyDirective, map_applyInput_applyInput h]

end Plan

/-- On what the schema defines, `q` does what first `p` and then `p'` do. -/
structure Plan.Composes (s : Schema) (p p' q : Plan) : Prop where
  newName? : ∀ n, s.isDefined n = true → q.newName? n = (p.newName? n).bind p'.newName?
  hasField : ∀ d ∈ s.types, ∀ field ∈ d.fields,
    q.suppressions.hasField d.name field.name =
      (p.suppressions.hasField d.name field.name ||
        p'.suppressions.hasField (p.newName d.name)
          (p.applyField (d.name == s.queryType) field).name)

namespace Plan.Composes

variable {s : Schema} {p p' q : Plan} (hq : Composes s p p' q)

include hq

section Names

variable {n : Name} (hn : s.isDefined n = true)

include hn

theorem suppresses_eq : q.suppresses n = (p.suppresses n || p'.suppresses (p.newName n)) := by
  rw [suppresses_eq_isNone, suppresses_eq_isNone, suppresses_eq_isNone, hq.newName? n hn, newName]
  cases p.newName? n <;> rfl

theorem suppresses_eq_false_iff :
    q.suppresses n = false ↔ p.suppresses n = false ∧ p'.suppresses (p.newName n) = false := by
  rw [hq.suppresses_eq hn, Bool.or_eq_false_iff]

theorem newName_eq (hkept : q.suppresses n = false) :
    q.newName n = p'.newName (p.newName n) := by
  obtain ⟨hp, hp'⟩ := (hq.suppresses_eq_false_iff hn).1 hkept
  have hname : q.newName? n = some (p'.newName (p.newName n)) := by
    rw [hq.newName? n hn, newName?_eq_some_iff.2 ⟨hp, rfl⟩, Option.bind_some,
      newName?_eq_some_iff.2 ⟨hp', rfl⟩]
  exact (newName?_eq_some_iff.1 hname).2

end Names

theorem applyNames_eq {names : List Name} (hnames : ∀ n ∈ names, s.isDefined n = true) :
    p'.applyNames (p.applyNames names) = q.applyNames names := by
  rw [applyNames_eq_filterMap, applyNames_eq_filterMap, applyNames_eq_filterMap,
    List.filterMap_filterMap]
  refine List.filterMap_congr fun n hn => ?_
  exact (hq.newName? n (hnames n hn)).symm

section Renamed

variable {document : Document} {settings : Settings}
variable (hs : document.Supports s) (h : s.Admits p settings)

include hs h

section Fields

variable {d : TypeDefinition} (hd : d ∈ s.types) (hkept : p.suppresses d.name = false)

include hd hkept

/-- A field survives both plans if it survives each, the second one under its new name. -/
theorem keepsField_eq {field : FieldDefinition} (hfield : field ∈ d.fields) :
    q.suppressions.keepsField s.queryType d.name field.name =
      (p.suppressions.keepsField s.queryType d.name field.name &&
        p'.suppressions.keepsField (p.newName s.queryType) (p.newName d.name)
          (p.applyField (d.name == s.queryType) field).name) := by
  have hnamed := Schema.newName_eq_queryType_iff hs h hd hkept
  unfold Suppressions.keepsField
  rw [hq.hasField d hd field hfield]
  by_cases hquery : d.name = s.queryType
  · have hdefined := hs.isDefined_name hd hquery hfield
    simp only [hasType_suppressions_eq, hq.suppresses_eq hdefined, hquery, applyField_eq_mk,
      beq_self_eq_true, if_true, Bool.true_and, Bool.not_or]
    ac_rfl
  · have hnot : p.newName d.name ≠ p.newName s.queryType := fun heq => hquery (hnamed.1 heq)
    simp only [beq_false_of_ne hquery, beq_false_of_ne hnot, Bool.false_and, Bool.not_false,
      Bool.and_true, Bool.not_or]

theorem keptFields_renamed :
    (s.renamed p).keptFields p'.suppressions (p.applyType s.queryType d) =
      (s.keptFields q.suppressions d).map (p.applyField (d.name == s.queryType)) := by
  have hname := Schema.name_applyType hs h hd
  rw [Schema.keptFields, Schema.fields_applyType_eq, hname, List.filter_map, Schema.keptFields,
    List.filter_filter, Schema.keptFields]
  refine congrArg _ (List.filter_congr fun field hfield => ?_)
  rw [hq.keepsField_eq hs h hd hkept hfield, Bool.and_comm]
  rfl

end Fields

variable (h' : (s.renamed p).Admits p' settings)

include h'

section Kept

variable {d : TypeDefinition} (hd : d ∈ s.types) (hkept : q.suppresses d.name = false)

include hd hkept

omit h' in
theorem kept_applyType :
    p.suppresses d.name = false ∧ p.applyType s.queryType d ∈ (s.renamed p).types ∧
      p'.suppresses (p.applyType s.queryType d).name = false := by
  obtain ⟨hp, hp'⟩ := (hq.suppresses_eq_false_iff (Schema.isDefined_of_mem hd)).1 hkept
  refine ⟨hp, Schema.mem_types_renamed.2 ⟨d, hd, hp, rfl⟩, ?_⟩
  rw [Schema.name_applyType hs h hd]
  exact hp'

theorem keptFields_ne_nil (hne : d.fields ≠ []) : s.keptFields q.suppressions d ≠ [] := by
  obtain ⟨hp, hmem, hp'⟩ := hq.kept_applyType hs h hd hkept
  have hne' : (p.applyType s.queryType d).fields ≠ [] := by
    rw [Schema.fields_applyType_eq, Ne, List.map_eq_nil_iff]
    exact h.fields d hd (hasType_suppressions_eq.trans hp) hne
  have hfields := h'.fields _ hmem (hasType_suppressions_eq.trans hp') hne'
  rw [hq.keptFields_renamed hs h hd hp, Ne, List.map_eq_nil_iff] at hfields
  exact hfields

theorem exists_kept_member {members : List Name} (hbody : d.body = .union members) :
    ∃ n ∈ members, q.suppresses n = false := by
  obtain ⟨hp, hmem, hp'⟩ := hq.kept_applyType hs h hd hkept
  obtain ⟨m, hm, hmkept⟩ := h'.members _ hmem (hasType_suppressions_eq.trans hp') _
    (union_applyType_iff.2 ⟨members, hbody, rfl⟩)
  obtain ⟨n, hn, hnkept, rfl⟩ := p.mem_applyNames.1 hm
  have hmember : n ∈ d.members := by rwa [TypeDefinition.members, hbody]
  have hdefined := (hs.wellFormed.types_resolve d hd).isDefined_member hmember
  rw [hasType_suppressions_eq] at hmkept
  exact ⟨n, hn, (hq.suppresses_eq_false_iff hdefined).2 ⟨hnkept, hmkept⟩⟩

theorem suppresses_reference {field : FieldDefinition}
    (hfield : field ∈ s.keptFields q.suppressions d) {n : Name} (hn : n ∈ field.references) :
    q.suppresses n = false := by
  obtain ⟨hp, hmem, hp'⟩ := hq.kept_applyType hs h hd hkept
  obtain ⟨hfmem, hfkept⟩ := Schema.mem_keptFields.1 hfield
  have hfield₁ : field ∈ s.keptFields p.suppressions d := by
    rw [hq.keepsField_eq hs h hd hp hfmem, Bool.and_eq_true] at hfkept
    exact Schema.mem_keptFields.2 ⟨hfmem, hfkept.1⟩
  have hfield₂ : p.applyField (d.name == s.queryType) field ∈
      (s.renamed p).keptFields p'.suppressions (p.applyType s.queryType d) := by
    rw [hq.keptFields_renamed hs h hd hp]
    exact List.mem_map_of_mem hfield
  have hn' : p.newName n ∈ (p.applyField (d.name == s.queryType) field).references := by
    rw [references_applyField]
    exact List.mem_map_of_mem hn
  have hpn := h.references d hd (hasType_suppressions_eq.trans hp) field hfield₁ n hn
  have hpn' := h'.references _ hmem (hasType_suppressions_eq.trans hp') _ hfield₂ _ hn'
  have hdefined := (hs.wellFormed.types_resolve d hd).fields field hfmem n hn
  rw [hasType_suppressions_eq] at hpn hpn'
  exact (hq.suppresses_eq_false_iff hdefined).2 ⟨hpn, hpn'⟩

end Kept

omit hs in
theorem suppresses_directive_reference (hwell : s.WellFormed) {d : DirectiveDefinition}
    (hd : d ∈ s.directives) {n : Name} (hn : n ∈ d.references) : q.suppresses n = false := by
  have hn' : p.newName n ∈ (p.applyDirective d).references := by
    rw [references_applyDirective]
    exact List.mem_map_of_mem hn
  have hpn := h.directives d hd n hn
  have hpn' := h'.directives (p.applyDirective d) (List.mem_map_of_mem hd) _ hn'
  rw [hasType_suppressions_eq] at hpn hpn'
  exact (hq.suppresses_eq_false_iff (hwell.directives_resolve d hd n hn)).2 ⟨hpn, hpn'⟩

/-- What neither of the plans leaves behind, the composed plan does not leave behind. -/
theorem leaveNothing : q.suppressions.LeaveNothing s := by
  have hkeeps : ∀ {n}, q.suppressions.hasType n = false ↔ q.suppresses n = false := by
    intro n
    rw [hasType_suppressions_eq]
  refine ⟨fun d hd hkept hne => ?_, fun d hd hkept members hbody => ?_,
    fun d hd hkept field hfield n hn => ?_, fun d hd n hn => ?_⟩
  · exact hq.keptFields_ne_nil hs h h' hd (hkeeps.1 hkept) hne
  · obtain ⟨n, hn, hnkept⟩ := hq.exists_kept_member hs h h' hd (hkeeps.1 hkept) hbody
    exact ⟨n, hn, hkeeps.2 hnkept⟩
  · exact hkeeps.2 (hq.suppresses_reference hs h h' hd (hkeeps.1 hkept) hfield hn)
  · exact hkeeps.2 (hq.suppresses_directive_reference h h' hs.wellFormed hd hn)

theorem not_suppresses_queryType : q.suppresses s.queryType = false :=
  (hq.suppresses_eq_false_iff (hs.wellFormed.isDefined_queryType)).2
    ⟨Schema.not_suppresses_queryType h, Schema.not_suppresses_queryType h'⟩

theorem newName_queryType : q.newName s.queryType = p'.newName (p.newName s.queryType) :=
  hq.newName_eq (hs.wellFormed.isDefined_queryType) (hq.not_suppresses_queryType hs h h')

/-- A name that either plan gives is free, so that the composed plan gives free names. -/
theorem isFreeOfConflicts : q.IsFreeOfConflicts s settings := by
  refine ⟨fun d hd e he hdkept hekept hname => ?_, fun d hd hkept hne => ?_⟩
  · obtain ⟨hdp, hdmem, hdp'⟩ := hq.kept_applyType hs h hd hdkept
    obtain ⟨hep, hemem, hep'⟩ := hq.kept_applyType hs h he hekept
    rw [hq.newName_eq (Schema.isDefined_of_mem hd) hdkept,
      hq.newName_eq (Schema.isDefined_of_mem he) hekept] at hname
    have hname' := h'.injective _ hdmem _ hemem hdp' hep'
    rw [Schema.name_applyType hs h hd, Schema.name_applyType hs h he] at hname'
    exact h.injective d hd e he hdp hep (hname' hname)
  · obtain ⟨hp, hmem, hp'⟩ := hq.kept_applyType hs h hd hkept
    have hname := hq.newName_eq (Schema.isDefined_of_mem hd) hkept
    have hnot' := h'.not_builtin _ hmem hp'
    rw [Schema.name_applyType hs h hd, ← hname] at hnot'
    by_cases hstays : q.newName d.name = p.newName d.name
    · rw [hstays] at hne ⊢
      exact h.not_builtin d hd hp hne
    · exact hnot' hstays

variable (hs' : (p.applyDocument s.queryType document).Supports (s.renamed p))
variable (hscalar : ∀ d ∈ s.types, d.isScalar = true → q.change? d.name = none)

include hs' hscalar

theorem isPossibleFor : q.IsPossibleFor s := by
  refine ⟨hscalar, fun d hd n hn => ?_, fun hquery => ?_⟩
  · obtain ⟨hkept, rfl⟩ := newName?_eq_some_iff.1 (newName?_eq_some_of_rename hn)
    obtain ⟨-, hmem, -⟩ := hq.kept_applyType hs h hd hkept
    have hname := Schema.isTypeName_newName hs' h' hmem
    rw [Schema.name_applyType hs h hd] at hname
    rw [hq.newName_eq (Schema.isDefined_of_mem hd) hkept]
    exact hname
  · have hnot := hq.not_suppresses_queryType hs h h'
    rw [suppresses_iff.2 hquery] at hnot
    cases hnot

theorem admits : s.Admits q settings :=
  ⟨hq.isPossibleFor hs h h' hs' hscalar, hq.isFreeOfConflicts hs h h', hq.leaveNothing hs h h'⟩

section KeptType

variable {d : TypeDefinition} (hd : d ∈ s.types) (hkept : q.suppresses d.name = false)

include hd hkept

theorem name_applyType_applyType :
    (p'.applyType (p.newName s.queryType) (p.applyType s.queryType d)).name =
      (q.applyType s.queryType d).name := by
  obtain ⟨-, hmem, -⟩ := hq.kept_applyType hs h hd hkept
  have hadmits := hq.admits hs h h' hs' hscalar
  rw [Schema.name_applyType hs hadmits hd, hq.newName_eq (Schema.isDefined_of_mem hd) hkept,
    ← Schema.name_applyType hs h hd]
  exact Schema.name_applyType hs' h' hmem

omit hs' hscalar in
theorem fields_applyType_applyType :
    (p'.applyType (p.newName s.queryType) (p.applyType s.queryType d)).fields =
      (q.applyType s.queryType d).fields := by
  obtain ⟨hp, -, -⟩ := hq.kept_applyType hs h hd hkept
  have hnamed : ((p.applyType s.queryType d).name == p.newName s.queryType) =
      (d.name == s.queryType) := by
    rw [Bool.eq_iff_iff, beq_iff_eq, beq_iff_eq, Schema.name_applyType hs h hd]
    exact Schema.newName_eq_queryType_iff hs h hd hp
  change (p'.applyType (s.renamed p).queryType _).fields = _
  rw [Schema.fields_applyType_eq, hq.keptFields_renamed hs h hd hp, Schema.fields_applyType_eq,
    List.map_map]
  refine List.map_congr_left fun field hfield => ?_
  obtain ⟨hmem, -⟩ := Schema.mem_keptFields.1 hfield
  have hreferences : ∀ n ∈ field.references, q.newName n = p'.newName (p.newName n) := fun n hn =>
    hq.newName_eq ((hs.wellFormed.types_resolve d hd).fields field hmem n hn)
      (hq.suppresses_reference hs h h' hd hkept hfield hn)
  change p'.applyField (_ == p.newName s.queryType) _ = _
  rw [hnamed]
  refine applyField_applyField (fun hquery => ?_) hreferences
  -- The name of a field of the query type is the first of its references.
  rw [hs.name_eq_baseName hd (beq_iff_eq.1 hquery) hmem]
  exact hreferences _ List.mem_cons_self

omit hs' hscalar in
theorem body_applyType_applyType :
    (p'.applyType (p.newName s.queryType) (p.applyType s.queryType d)).body =
      (q.applyType s.queryType d).body := by
  have hresolves := hs.wellFormed.types_resolve d hd
  have hinterfaces : p'.applyNames (p.applyNames d.interfaces) = q.applyNames d.interfaces :=
    hq.applyNames_eq fun _ => hresolves.isDefined_interface
  have hmembers : p'.applyNames (p.applyNames d.members) = q.applyNames d.members :=
    hq.applyNames_eq fun _ => hresolves.isDefined_member
  have hfields := hq.fields_applyType_applyType hs h h' hd hkept
  have hkind := (hs.types_supported d hd).kind
  obtain ⟨description, name, directives, body⟩ := d
  cases body with
  | object interfaces fields => exact congrArg₂ TypeBody.object hinterfaces hfields
  | interface interfaces fields => exact congrArg₂ TypeBody.interface hinterfaces hfields
  | union members => exact congrArg TypeBody.union hmembers
  | inputObject fields => exact absurd rfl hkind
  | scalar | enum =>
    rw [body_applyType, body_applyType, body_applyType]
    rfl

/-- A type that stays is the same whether the plans are applied in turn or composed. -/
theorem applyType_applyType :
    p'.applyType (p.newName s.queryType) (p.applyType s.queryType d) =
      q.applyType s.queryType d := by
  have hname := hq.name_applyType_applyType hs h h' hs' hscalar hd hkept
  have hbody := hq.body_applyType_applyType hs h h' hd hkept
  refine TypeDefinition.ext ?_ hname ?_ hbody
  · rw [description_applyType, description_applyType, description_applyType]
  · rw [directives_applyType, directives_applyType, directives_applyType]

end KeptType

theorem applyType?_applyType? {d : TypeDefinition} (hd : d ∈ s.types) :
    (p.applyType? s.queryType d).bind (p'.applyType? (p.newName s.queryType)) =
      q.applyType? s.queryType d := by
  have hsuppresses := hq.suppresses_eq (Schema.isDefined_of_mem hd)
  cases hp : p.suppresses d.name with
  | true => simp [applyType?, hsuppresses, hp]
  | false =>
    have hname := Schema.name_applyType hs h hd
    cases hp' : p'.suppresses (p.newName d.name) with
    | true => simp [applyType?, hsuppresses, hp, hname, hp']
    | false =>
      have hkept : q.suppresses d.name = false := by rw [hsuppresses, hp, hp', Bool.or_false]
      simp [applyType?, hkept, hp, hname, hp', hq.applyType_applyType hs h h' hs' hscalar hd hkept]

/-- What the second plan makes of the outcome of the first, the composed plan makes of the
document. -/
theorem applyDefinitions_eq (hschemas : document.schemas.length ≤ 1) :
    p'.applyDefinitions (p.newName s.queryType)
      (p.applyDefinitions s.queryType document.definitions) =
        q.applyDefinitions s.queryType document.definitions := by
  rw [applyDefinitions, applyDefinitions, List.filterMap_filterMap]
  refine List.filterMap_congr fun d hd => ?_
  have hsupported := hs.supported d hd
  cases d with
  | schema d =>
    have hroots := hs.roots_eq_of_mem_schemas hschemas (Document.mem_schemas.2 hd)
    have hquery := hq.newName_queryType hs h h'
    simp [applyDefinition, applySchema, hroots, hquery]
  | type d =>
    have hmem : d ∈ s.types := hs.types ▸ Document.mem_types.2 hd
    rw [applyDefinition_type, applyDefinition_type,
      ← hq.applyType?_applyType? hs h h' hs' hscalar hmem]
    cases p.applyType? s.queryType d with
    | none => rfl
    | some e => exact p'.applyDefinition_type _ e
  | directive d =>
    have hmem : d ∈ s.directives := hs.directives ▸ Document.mem_directives.2 hd
    have hreferences : ∀ n ∈ d.references, q.newName n = p'.newName (p.newName n) := fun n hn =>
      hq.newName_eq (hs.wellFormed.directives_resolve d hmem n hn)
        (hq.suppresses_directive_reference h h' hs.wellFormed hmem hn)
    exact congrArg (some ∘ Definition.directive) (applyDirective_applyDirective hreferences)
  | extension | operation | fragment => exact hsupported.elim

end Renamed

end Plan.Composes

end SchemaReshape
