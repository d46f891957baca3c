import SchemaReshape.Proofs.Rename.Applied

/-!
# What a renaming reads of a plan

The checks of a plan and its application each look up names and fields on their own, but as the
references of a supported schema all lead to definitions, what they look up is defined. Plans that
agree there have the same outcome, be it a document or the first fault (`Document.rename_congr`).
-/

namespace SchemaReshape

open Check

/-- The suppressions say the same of all that the schema defines. -/
structure Suppressions.AgreeOn (s : Schema) (p q : Suppressions) : Prop where
  hasType : ∀ n, s.isDefined n = true → p.hasType n = q.hasType n
  hasField : ∀ d ∈ s.types, ∀ field ∈ d.fields,
    p.hasField d.name field.name = q.hasField d.name field.name

/-- The plans say the same of all that the schema defines. -/
structure Plan.AgreeOn (s : Schema) (p q : Plan) : Prop where
  change? : ∀ n, s.isDefined n = true → p.change? n = q.change? n
  hasField : ∀ d ∈ s.types, ∀ field ∈ d.fields,
    p.suppressions.hasField d.name field.name = q.suppressions.hasField d.name field.name

namespace Suppressions.AgreeOn

variable {document : Document} {s : Schema} {p q : Suppressions} (h : AgreeOn s p q)

include h

theorem keptTypes_eq : s.keptTypes p = s.keptTypes q :=
  List.filter_congr fun _ hd => congrArg not (h.hasType _ (Schema.isDefined_of_mem hd))

theorem filter_arguments_eq {arguments : List InputValueDefinition}
    (hdefined : ∀ n ∈ arguments.map (·.type.baseName), s.isDefined n = true) :
    (arguments.filter fun a => p.hasType a.type.baseName) =
      arguments.filter fun a => q.hasType a.type.baseName :=
  List.filter_congr fun _ ha => h.hasType _ (hdefined _ (List.mem_map_of_mem ha))

theorem fieldLeftovers_eq {field : FieldDefinition}
    (hreferences : ∀ n ∈ field.references, s.isDefined n = true) (owner : Name) :
    field.leftovers p owner = field.leftovers q owner := by
  obtain ⟨hbase, harguments⟩ := List.forall_mem_cons.1 hreferences
  rw [FieldDefinition.leftovers, FieldDefinition.leftovers, h.hasType _ hbase,
    h.filter_arguments_eq harguments]

theorem directiveLeftovers_eq {d : DirectiveDefinition}
    (hreferences : ∀ n ∈ d.references, s.isDefined n = true) : d.leftovers p = d.leftovers q := by
  rw [DirectiveDefinition.leftovers, DirectiveDefinition.leftovers,
    h.filter_arguments_eq hreferences]

section Types

variable {d : TypeDefinition} (hd : d ∈ s.types)

include hd

theorem losesAllMembers_eq (hwell : s.WellFormed) : d.losesAllMembers p = d.losesAllMembers q := by
  unfold TypeDefinition.losesAllMembers
  split
  · rename_i members hbody
    have hmembers : d.members = members := by rw [TypeDefinition.members, hbody]
    rw [Bool.eq_iff_iff, List.all_eq_true, List.all_eq_true]
    refine forall₂_congr fun n hn => ?_
    rw [h.hasType n ((hwell.types_resolve d hd).isDefined_member (hmembers ▸ hn))]
  · rfl

variable (hs : document.Supports s)

include hs

/-- A field goes away with the type that it is named after only at the query type, where that type
is defined. -/
theorem keepsField_eq {field : FieldDefinition} (hfield : field ∈ d.fields) :
    p.keepsField s.queryType d.name field.name = q.keepsField s.queryType d.name field.name := by
  unfold keepsField
  rw [h.hasField d hd field hfield]
  by_cases hquery : d.name = s.queryType
  · rw [h.hasType _ (hs.isDefined_name hd hquery hfield)]
  · rw [beq_false_of_ne hquery, Bool.false_and, Bool.false_and]

theorem keptFields_eq : s.keptFields p d = s.keptFields q d :=
  List.filter_congr fun _ hfield => h.keepsField_eq hd hs hfield

theorem losesAllFields_eq : s.losesAllFields p d = s.losesAllFields q d := by
  rw [Schema.losesAllFields, Schema.losesAllFields, h.keptFields_eq hd hs]

theorem keptFieldLeftovers_eq :
    (s.keptFields p d).flatMap (·.leftovers p d.name) =
      (s.keptFields q d).flatMap (·.leftovers q d.name) := by
  rw [h.keptFields_eq hd hs]
  refine List.flatMap_congr fun field hfield => h.fieldLeftovers_eq ?_ d.name
  exact (hs.wellFormed.types_resolve d hd).fields field (List.mem_of_mem_filter hfield)

end Types

theorem leftovers_eq (hs : document.Supports s) : s.leftovers p = s.leftovers q := by
  have htypes : ∀ d ∈ s.keptTypes q, d ∈ s.types := fun d hd => List.mem_of_mem_filter hd
  have hfields : (s.keptTypes q).filter (s.losesAllFields p) =
      (s.keptTypes q).filter (s.losesAllFields q) :=
    List.filter_congr fun d hd => h.losesAllFields_eq (htypes d hd) hs
  have hmembers : (s.keptTypes q).filter (·.losesAllMembers p) =
      (s.keptTypes q).filter (·.losesAllMembers q) :=
    List.filter_congr fun d hd => h.losesAllMembers_eq (htypes d hd) hs.wellFormed
  have hdangling : (s.keptTypes q).flatMap (fun d =>
      (s.keptFields p d).flatMap (·.leftovers p d.name)) =
        (s.keptTypes q).flatMap fun d => (s.keptFields q d).flatMap (·.leftovers q d.name) :=
    List.flatMap_congr fun d hd => h.keptFieldLeftovers_eq (htypes d hd) hs
  have hdirectives : s.directives.flatMap (·.leftovers p) =
      s.directives.flatMap (·.leftovers q) :=
    List.flatMap_congr fun d hd =>
      h.directiveLeftovers_eq (hs.wellFormed.directives_resolve d hd)
  simp only [Schema.leftovers, h.keptTypes_eq, hfields, hmembers, hdangling, hdirectives]

theorem checkLeftovers_eq (hs : document.Supports s) :
    s.checkLeftovers p = s.checkLeftovers q := by
  rw [Schema.checkLeftovers, Schema.checkLeftovers, h.leftovers_eq hs]

end Suppressions.AgreeOn

def Plan.entriesFor (plan : Plan) (s : Schema) : NameMap TypeChange :=
  plan.types.filter fun n _ => s.isDefined n

namespace Schema

variable (s : Schema) (plan : Plan)

theorem checkPlan_entriesFor :
    s.checkPlan { plan with types := plan.entriesFor s } = s.checkPlan plan := by
  rw [checkPlan, checkPlan, List.forM_eq_forM]
  refine forM_filter_eq fun e _ (he : s.isDefined e.1 = false) => ?_
  refine checkEntry_eq_ok_iff.2 fun d hd => ?_
  rw [isDefined_of_type? hd] at he
  cases he

theorem formerNames_entriesFor :
    s.formerNames { plan with types := plan.entriesFor s } = s.formerNames plan := by
  rw [formerNames, formerNames, Plan.entriesFor, SortedMap.filter, List.filterMap_filter]
  refine congrArg SortedMap.ofList (List.filterMap_congr fun e _ => ?_)
  obtain ⟨n, change⟩ := e
  cases change with
  | suppress => rw [ite_self]
  | rename newName => cases hn : s.isDefined n <;> simp

end Schema

namespace Plan.AgreeOn

variable {document : Document} {s : Schema} {p q : Plan} (h : AgreeOn s p q)

include h

section Names

variable {n : Name} (hn : s.isDefined n = true)

include hn

theorem newName?_eq : p.newName? n = q.newName? n := by
  rw [newName?, newName?, h.change? n hn]

theorem newName_eq : p.newName n = q.newName n := by
  rw [newName, newName, h.newName?_eq hn]

theorem suppresses_eq : p.suppresses n = q.suppresses n := by
  rw [suppresses_eq_isNone, suppresses_eq_isNone, h.newName?_eq hn]

end Names

theorem suppressions : Suppressions.AgreeOn s p.suppressions q.suppressions where
  hasType _ hn := h.suppresses_eq hn
  hasField := h.hasField

theorem entriesFor_eq : p.entriesFor s = q.entriesFor s := by
  refine SortedMap.ext_get? fun n => ?_
  rw [entriesFor, entriesFor, SortedMap.get?_filter_keys, SortedMap.get?_filter_keys]
  exact ite_congr rfl (h.change? n) fun _ => rfl

theorem checkPlan_eq : s.checkPlan p = s.checkPlan q := by
  rw [← s.checkPlan_entriesFor p, ← s.checkPlan_entriesFor q, h.entriesFor_eq]
  rfl

theorem formerNames_eq : s.formerNames p = s.formerNames q := by
  rw [← s.formerNames_entriesFor p, ← s.formerNames_entriesFor q, h.entriesFor_eq]
  rfl

theorem renamedTypes_eq : s.renamedTypes p = s.renamedTypes q :=
  List.filterMap_congr fun d hd => by rw [h.newName?_eq (Schema.isDefined_of_mem hd)]

theorem conflicts_eq (settings : Settings) : s.conflicts p settings = s.conflicts q settings := by
  rw [Schema.conflicts, Schema.conflicts, h.renamedTypes_eq]

theorem checkConflicts_eq (settings : Settings) :
    s.checkConflicts p settings = s.checkConflicts q settings := by
  rw [Schema.checkConflicts, Schema.checkConflicts, h.conflicts_eq]

theorem applyNames_eq {names : List Name} (hnames : ∀ n ∈ names, s.isDefined n = true) :
    p.applyNames names = q.applyNames names := by
  rw [applyNames_eq_filterMap, applyNames_eq_filterMap]
  exact List.filterMap_congr fun n hn => h.newName?_eq (hnames n hn)

theorem applyRef_eq {t : TypeRef} (ht : s.isDefined t.baseName = true) :
    p.applyRef t = q.applyRef t := by
  induction t with
  | named n => rw [applyRef_named, applyRef_named]; exact congrArg _ (h.newName_eq ht)
  | list t ih => rw [applyRef_list, applyRef_list, ih ht]
  | nonNull t ih => rw [applyRef_nonNull, applyRef_nonNull, ih ht]

theorem map_applyInput_eq {ds : List InputValueDefinition}
    (hds : ∀ n ∈ ds.map (·.type.baseName), s.isDefined n = true) :
    ds.map p.applyInput = ds.map q.applyInput := by
  refine List.map_congr_left fun d hd => ?_
  rw [applyInput, applyInput, h.applyRef_eq (hds _ (List.mem_map_of_mem hd))]

theorem applyField_eq {named : Bool} {field : FieldDefinition}
    (hname : named = true → s.isDefined field.name = true)
    (hreferences : ∀ n ∈ field.references, s.isDefined n = true) :
    p.applyField named field = q.applyField named field := by
  obtain ⟨hbase, harguments⟩ := List.forall_mem_cons.1 hreferences
  rw [applyField_eq_mk, applyField_eq_mk, h.applyRef_eq hbase, h.map_applyInput_eq harguments]
  cases named with
  | true => rw [h.newName_eq (hname rfl)]
  | false => rfl

theorem applyDirective_eq {d : DirectiveDefinition}
    (hreferences : ∀ n ∈ d.references, s.isDefined n = true) :
    p.applyDirective d = q.applyDirective d := by
  rw [applyDirective, applyDirective, h.map_applyInput_eq hreferences]

variable (hs : document.Supports s)

include hs

section Types

variable {d : TypeDefinition} (hd : d ∈ s.types)

include hd

theorem applyFields_eq :
    p.applyFields s.queryType d.name d.fields = q.applyFields s.queryType d.name d.fields := by
  have hkept := h.suppressions.keptFields_eq hd hs
  change (s.keptFields p.suppressions d).map _ = (s.keptFields q.suppressions d).map _
  rw [hkept]
  refine List.map_congr_left fun field hfield => ?_
  have hmem : field ∈ d.fields := List.mem_of_mem_filter hfield
  exact h.applyField_eq (fun hquery => hs.isDefined_name hd (beq_iff_eq.1 hquery) hmem)
    ((hs.wellFormed.types_resolve d hd).fields field hmem)

omit hs in
theorem newDefinitionName_eq : p.newDefinitionName d = q.newDefinitionName d := by
  rw [newDefinitionName, newDefinitionName, h.newName_eq (Schema.isDefined_of_mem hd)]

theorem applyBody_eq :
    p.applyBody s.queryType d.name d.body = q.applyBody s.queryType d.name d.body := by
  have hresolves := hs.wellFormed.types_resolve d hd
  have hinterfaces : p.applyNames d.interfaces = q.applyNames d.interfaces :=
    h.applyNames_eq fun _ => hresolves.isDefined_interface
  have hmembers : p.applyNames d.members = q.applyNames d.members :=
    h.applyNames_eq fun _ => hresolves.isDefined_member
  have hfields := h.applyFields_eq hs hd
  have hinputs := h.map_applyInput_eq (List.forall_mem_map.2 hresolves.inputFields)
  obtain ⟨description, name, directives, body⟩ := d
  cases body with
  | object interfaces fields => exact congrArg₂ TypeBody.object hinterfaces hfields
  | interface interfaces fields => exact congrArg₂ TypeBody.interface hinterfaces hfields
  | union members => exact congrArg TypeBody.union hmembers
  | inputObject fields => exact congrArg TypeBody.inputObject hinputs
  | scalar | enum => rfl

theorem applyType_eq : p.applyType s.queryType d = q.applyType s.queryType d := by
  rw [applyType_eq_mk, applyType_eq_mk, h.newDefinitionName_eq hd, h.applyBody_eq hs hd]

end Types

/-- The only root of the only schema definition is the query type. -/
theorem applyDefinitions_eq (hschemas : document.schemas.length ≤ 1) :
    p.applyDefinitions s.queryType document.definitions =
      q.applyDefinitions s.queryType document.definitions := by
  refine List.filterMap_congr fun d hd => ?_
  have hsupported := hs.supported d hd
  cases d with
  | schema d =>
    have hroots := hs.roots_eq_of_mem_schemas hschemas (Document.mem_schemas.2 hd)
    have hquery := h.newName_eq hs.wellFormed.isDefined_queryType
    simp only [applyDefinition, applySchema, hroots, Option.map_some, applyName_eq, hquery]
  | type d =>
    have hmem : d ∈ s.types := hs.types ▸ Document.mem_types.2 hd
    rw [applyDefinition, applyDefinition, h.suppresses_eq (Schema.isDefined_of_mem hmem),
      h.applyType_eq hs hmem]
  | directive d =>
    have hmem : d ∈ s.directives := hs.directives ▸ Document.mem_directives.2 hd
    rw [applyDefinition, applyDefinition,
      h.applyDirective_eq (hs.wellFormed.directives_resolve d hmem)]
  | extension | operation | fragment => exact hsupported.elim

theorem applyDocument_eq (hschemas : document.schemas.length ≤ 1) :
    p.applyDocument s.queryType document = q.applyDocument s.queryType document := by
  rw [applyDocument, applyDocument, h.applyDefinitions_eq hs hschemas, rootDefinition,
    rootDefinition, h.newName_eq hs.wellFormed.isDefined_queryType]

end Plan.AgreeOn

/-- Plans that agree on what a document defines have the same outcome for it. -/
theorem Document.rename_congr {document : Document} (hschemas : document.schemas.length ≤ 1)
    {p q : Plan} (h : ∀ s, document.Supports s → Plan.AgreeOn s p q) (settings : Settings) :
    document.rename p settings = document.rename q settings := by
  refine bind_congr_of_ok fun s hschema => ?_
  have hs : document.Supports s := supportedSchema_eq_ok_iff.1 (mapError_eq_ok_iff.1 hschema)
  have hagree := h s hs
  rw [hagree.checkPlan_eq, hagree.checkConflicts_eq, hagree.suppressions.checkLeftovers_eq hs,
    hagree.applyDocument_eq hs hschemas, hagree.formerNames_eq]

end SchemaReshape
