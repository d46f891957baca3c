import SchemaReshape.Proofs.Merge.TypeNames

/-!
# Fields that edges add

An edge is checked by itself, against the schemas as they are and not against what other edges add.
That is enough: edges have names of their own, out-fields and in-fields begin differently, and no
other schema has fields under the name of a type that an edge joins
(`Mergeable.addedFields_of_check`).
-/

namespace SchemaReshape

open Check

namespace Endpoint

/-- In the schema the endpoint is a field of an object or interface type other than the query type,
and the scalar is what the field has under any wrappers. -/
structure LeadsTo (r : Endpoint) (s : Schema) (scalar : Name) : Prop where
  notQueryType : r.type ≠ s.queryType
  field : ∃ d field, s.type? r.type = some d ∧ (d.isObject = true ∨ d.isInterface = true) ∧
    d.field? r.field = some field ∧ field.type.baseName = scalar
  scalar : s.NamesScalar scalar

/-- The endpoint leads to the scalar in one of the schemas that the documents give. -/
def LeadsToIn (r : Endpoint) (documents : Catalogue Document) (scalar : Name) : Prop :=
  ∃ x s, documents.get? r.schemaId = some x ∧ x.supportedSchema = .ok s ∧ r.LeadsTo s scalar

variable {r : Endpoint} {schemas : SchemaList} {s : Schema}

theorem owner_eq_ok_iff {d : TypeDefinition} :
    r.owner schemas = .ok (s, d) ↔
      schemas.lookup r.schemaId = some s ∧ r.type ≠ s.queryType ∧ s.type? r.type = some d ∧
        (d.isObject = true ∨ d.isInterface = true) := by
  unfold owner
  cases schemas.lookup r.schemaId with
  | none => simp
  | some t =>
    simp only [ite_throw_else_eq_ok_iff, Option.some.injEq]
    cases htype : t.type? r.type with
    | none =>
      refine iff_of_false (fun h => by simp at h) ?_
      rintro ⟨rfl, -, hd, -⟩
      rw [htype] at hd
      cases hd
    | some e =>
      simp only [Bool.or_eq_true, ite_throw_eq_ok_iff, pure_eq_ok_iff, Prod.mk.injEq]
      constructor
      · rintro ⟨hquery, hfields, rfl, rfl⟩
        exact ⟨rfl, hquery, htype, hfields⟩
      · rintro ⟨rfl, hquery, hd, hfields⟩
        obtain rfl : e = d := Option.some.inj (htype.symm.trans hd)
        exact ⟨hquery, hfields, rfl, rfl⟩

theorem scalarType_eq_ok_iff (hs : ∀ s, schemas.lookup r.schemaId = some s → s.WellFormed)
    {scalar : Name} :
    r.scalarType schemas = .ok scalar ↔
      ∃ s, schemas.lookup r.schemaId = some s ∧ r.LeadsTo s scalar := by
  unfold scalarType
  rw [bind_eq_ok_iff]
  constructor
  · rintro ⟨⟨s, d⟩, howner, h⟩
    obtain ⟨hlookup, hquery, htype, hfields⟩ := owner_eq_ok_iff.1 howner
    dsimp only at h
    cases hfield : d.field? r.field with
    | none => simp [hfield] at h
    | some field =>
      simp only [hfield, ite_throw_eq_ok_iff, pure_eq_ok_iff] at h
      obtain ⟨hscalar, rfl⟩ := h
      have hnames : s.NamesScalar field.type.baseName := by
        rw [(hs s hlookup).namesScalar_iff]
        cases hbase : s.type? field.type.baseName with
        | none => exact .inr ⟨rfl, by simpa only [hbase] using hscalar⟩
        | some t => exact .inl ⟨t, rfl, by simpa only [hbase] using hscalar⟩
      exact ⟨s, hlookup, hquery, ⟨d, field, htype, hfields, hfield, rfl⟩, hnames⟩
  · rintro ⟨s, hlookup, hquery, ⟨d, field, htype, hfields, hfield, rfl⟩, hnames⟩
    refine ⟨(s, d), owner_eq_ok_iff.2 ⟨hlookup, hquery, htype, hfields⟩, ?_⟩
    dsimp only
    rcases (hs s hlookup).namesScalar_iff.1 hnames with ⟨t, hbase, hscalar⟩ | ⟨hbase, hbuiltin⟩
    · simp only [hfield, hbase, hscalar, if_true, pure_eq_ok_iff]
    · simp only [hfield, hbase, hbuiltin, if_true, pure_eq_ok_iff]

theorem checkAdded_eq_ok_iff {added : Name} :
    r.checkAdded schemas added = .ok () ↔
      ∀ d, (schemas.lookup r.schemaId).bind (·.type? r.type) = some d →
        ∀ field ∈ d.fields, field.name ≠ added := by
  unfold checkAdded
  cases (schemas.lookup r.schemaId).bind (·.type? r.type) with
  | none => simp
  | some d => simp [TypeDefinition.field?]

end Endpoint

namespace Edge

/-- The fields that the edge adds, each with the endpoint to whose type it is added. -/
def additions (e : Edge) : List (Endpoint × Name) :=
  (e.outbound, e.outField) :: if e.outOnly then [] else [(e.inbound, e.inField)]

def addedFields (e : Edge) : List (Name × Name) := e.additions.map fun a => (a.1.type, a.2)

variable {e f : Edge} {schemas : SchemaList}

theorem mem_additions {a : Endpoint × Name} :
    a ∈ e.additions ↔
      a = (e.outbound, e.outField) ∨ e.outOnly = false ∧ a = (e.inbound, e.inField) := by
  unfold additions
  cases e.outOnly <;> simp

theorem outField_inj : e.outField = f.outField ↔ e.name = f.name := by
  unfold outField
  exact String.append_right_inj _

theorem inField_inj : e.inField = f.inField ↔ e.name = f.name := by
  unfold inField
  exact String.append_right_inj _

theorem outField_ne_inField : e.outField ≠ f.inField := by
  intro h
  have hchars := congrArg String.toList h
  simp [outField, inField] at hchars

/-- An added field tells the edge that adds it. -/
theorem name_eq_of_mem_additions {a b : Endpoint × Name} (ha : a ∈ e.additions)
    (hb : b ∈ f.additions) (h : a.2 = b.2) : e.name = f.name := by
  rcases mem_additions.1 ha with rfl | ⟨-, rfl⟩ <;> rcases mem_additions.1 hb with rfl | ⟨-, rfl⟩
  · exact outField_inj.1 h
  · exact absurd h outField_ne_inField
  · exact absurd h.symm outField_ne_inField
  · exact inField_inj.1 h

theorem addedFields_nodup : e.addedFields.Nodup := by
  unfold addedFields additions
  cases e.outOnly with
  | true => simp
  | false => simp [outField_ne_inField]

theorem flatMap_addedFields_nodup {edges : List Edge} (h : (edges.map (·.name)).Nodup) :
    (edges.flatMap addedFields).Nodup := by
  rw [List.nodup_flatMap]
  refine ⟨fun e _ => addedFields_nodup, (List.pairwise_map.1 h).imp fun {e f} hne => ?_⟩
  intro p hp hp'
  obtain ⟨a, ha, rfl⟩ := List.mem_map.1 hp
  obtain ⟨b, hb, hab⟩ := List.mem_map.1 hp'
  exact hne (name_eq_of_mem_additions ha hb (congrArg Prod.snd hab).symm)

theorem checkEndpoints_eq_ok_iff :
    e.checkEndpoints schemas = .ok () ↔
      e.name.isLegal = true ∧ e.outbound.schemaId ≠ e.inbound.schemaId ∧
        ∃ scalar, e.outbound.scalarType schemas = .ok scalar ∧
          e.inbound.scalarType schemas = .ok scalar := by
  simp only [checkEndpoints, bind_eq_ok_iff, throw_bind_eq, ite_throw_else_eq_ok_iff,
    Bool.not_eq_true', Bool.not_eq_false, ne_eq, Decidable.not_not, pure_eq_ok_iff, and_true]
  refine and_congr_right fun _ => and_congr_right fun _ => ?_
  constructor
  · rintro ⟨scalar, hout, scalar', hin, rfl⟩
    exact ⟨scalar, hout, hin⟩
  · rintro ⟨scalar, hout, hin⟩
    exact ⟨scalar, hout, scalar, hin, rfl⟩

theorem checkFields_eq_ok_iff :
    e.checkFields schemas = .ok () ↔
      ∀ a ∈ e.additions, a.1.checkAdded schemas a.2 = .ok () := by
  unfold checkFields additions
  cases e.outOnly <;> simp

/-- Every edge passes by itself, and no name comes up twice. -/
theorem check_eq_ok_iff_of_seen {seen : List Name} {edges : List Edge} :
    check schemas seen edges = .ok () ↔
      (∀ e ∈ edges, e.name ∉ seen ∧ e.checkEndpoints schemas = .ok () ∧
        e.checkFields schemas = .ok ()) ∧ (edges.map (·.name)).Nodup := by
  induction edges generalizing seen with
  | nil => simp [check]
  | cons e edges ih =>
    rw [check, throw_bind_eq, ite_throw_else_eq_ok_iff, List.contains_iff_mem,
      bind_unit_eq_ok_iff, mapError_eq_ok_iff, bind_unit_eq_ok_iff, mapError_eq_ok_iff, ih,
      List.forall_mem_cons, List.map_cons, List.nodup_cons]
    constructor
    · rintro ⟨hnew, hendpoints, hfields, hrest, hnodup⟩
      have hname : e.name ∉ edges.map (·.name) := by
        intro hmem
        obtain ⟨f, hf, hname⟩ := List.mem_map.1 hmem
        exact (hrest f hf).1 (hname ▸ List.mem_cons_self)
      refine ⟨⟨⟨hnew, hendpoints, hfields⟩, fun f hf => ?_⟩, hname, hnodup⟩
      obtain ⟨hseen, hpasses⟩ := hrest f hf
      exact ⟨fun hmem => hseen (List.mem_cons_of_mem _ hmem), hpasses⟩
    · rintro ⟨⟨⟨hnew, hendpoints, hfields⟩, hrest⟩, hname, hnodup⟩
      refine ⟨hnew, hendpoints, hfields, fun f hf => ?_, hnodup⟩
      obtain ⟨hseen, hpasses⟩ := hrest f hf
      refine ⟨fun hmem => ?_, hpasses⟩
      rcases List.mem_cons.1 hmem with heq | hmem
      · exact hname (heq ▸ List.mem_map_of_mem hf)
      · exact hseen hmem

end Edge

namespace Mergeable

variable {documents : Catalogue Document} {edges : List Edge} {settings : Settings}
variable {m : Mergeable} (h : check documents edges settings = .ok m)

include h

theorem exists_document_of_lookup {label : String} {s : Schema}
    (hs : m.schemas.lookup label = some s) :
    ∃ x, documents.get? label = some x ∧ x.supportedSchema = .ok s := by
  obtain ⟨⟨label', x⟩, hmem, hcheck⟩ :=
    exists_of_mem_of_mapM_eq_ok (mapM_checkSchema_of_check h) (Catalogue.mem_of_lookup hs)
  obtain ⟨-, hx, rfl⟩ := checkSchema_eq_ok_iff.1 hcheck
  exact ⟨x, Catalogue.get?_of_mem_toList hmem, hx⟩

theorem wellFormed_of_lookup {label : String} {s : Schema}
    (hs : m.schemas.lookup label = some s) : s.WellFormed :=
  wellFormed_of_mem_schemas h (Catalogue.mem_of_lookup hs)

theorem fields_eq_nil_of_other {a b : String} (hab : a ≠ b) {s t : Schema}
    (hs : (a, s) ∈ m.schemas) (ht : (b, t) ∈ m.schemas) {d e : TypeDefinition} (hd : d ∈ s.types)
    (he : e ∈ t.types) (hname : d.name = e.name) (hquery : d.name ≠ s.queryType)
    (hfields : d.isObject = true ∨ d.isInterface = true) : e.fields = [] := by
  have hscalar : d.isScalar = false := d.isScalar_eq_false_of_hasFields hfields
  by_cases hescalar : e.isScalar = true
  · exact e.fields_eq_nil_of_isScalar hescalar
  · -- Both types make a claim to the name, and the claims do not merge.
    rw [Bool.not_eq_true] at hescalar
    have hda : (⟨d.name, a, d.name == s.queryType, d.isScalar⟩ : TypeClaim) ∈
        TypeClaim.ofSchema settings a s := TypeClaim.mem_ofSchema.2 ⟨d, hd, fun _ => hscalar, rfl⟩
    have heb : (⟨e.name, b, e.name == t.queryType, e.isScalar⟩ : TypeClaim) ∈
        TypeClaim.ofSchema settings b t := TypeClaim.mem_ofSchema.2 ⟨e, he, fun _ => hescalar, rfl⟩
    have hne : (a, s) ≠ (b, t) := fun heq => hab (congrArg Prod.fst heq)
    have hmerges := agrees_of_mem_ofSchema h hs ht hne hda heb hname
    simp [TypeClaim.mergesWith_iff, hquery, hscalar] at hmerges

/-- A field that is new at an endpoint is new to the types of that name in all of the schemas. -/
theorem ne_of_checkAdded {r : Endpoint} {added scalar : Name} {s : Schema}
    (hs : m.schemas.lookup r.schemaId = some s) (hleads : r.LeadsTo s scalar)
    (hadded : r.checkAdded m.schemas added = .ok ()) {label : String} {x : Document} {t : Schema}
    (hx : documents.get? label = some x) (ht : x.supportedSchema = .ok t) {e : TypeDefinition}
    (he : e ∈ t.types) (hname : e.name = r.type) : ∀ field ∈ e.fields, field.name ≠ added := by
  obtain ⟨d, -, htype, hfields, -⟩ := hleads.field
  have hd : d ∈ s.types := Schema.mem_types_of_type? htype
  have hdname : d.name = r.type := Schema.name_eq_of_type? htype
  by_cases hlabel : label = r.schemaId
  · obtain ⟨y, hy, hys⟩ := exists_document_of_lookup h hs
    rw [hlabel, hy] at hx
    obtain rfl : y = x := Option.some.inj hx
    obtain rfl : s = t := Except.ok.inj (hys.symm.trans ht)
    have hfound : s.type? r.type = some e :=
      (Schema.type?_eq_some_iff (wellFormed_of_lookup h hs).types_nodup).2 ⟨he, hname⟩
    apply Endpoint.checkAdded_eq_ok_iff.1 hadded
    rw [hs, Option.bind_some, hfound]
  · have hmem := mem_schemas_of_get? h hx ht
    have hquery : d.name ≠ s.queryType := hdname ▸ hleads.notQueryType
    have hnil : e.fields = [] :=
      fields_eq_nil_of_other h (Ne.symm hlabel) (Catalogue.mem_of_lookup hs) hmem hd he
        (hdname.trans hname.symm) hquery hfields
    rw [hnil]
    exact nofun

/-- Edges that pass join fields of one scalar in two different schemas. The fields that they add are
different from each other, and from all fields of the types of these names in all of the schemas. -/
theorem addedFields_of_check :
    (∀ e ∈ edges, e.outbound.schemaId ≠ e.inbound.schemaId ∧
      ∃ scalar, e.outbound.LeadsToIn documents scalar ∧ e.inbound.LeadsToIn documents scalar) ∧
    (edges.flatMap Edge.addedFields).Nodup ∧
    ∀ type field, (type, field) ∈ edges.flatMap Edge.addedFields →
      ∀ label x s, documents.get? label = some x → x.supportedSchema = .ok s →
        ∀ d ∈ s.types, d.name = type → ∀ f ∈ d.fields, f.name ≠ field := by
  obtain ⟨hedges, hnames⟩ := Edge.check_eq_ok_iff_of_seen.1 (check_eq_ok_iff.1 h).2.2.1
  -- Both endpoints of an edge lead to its scalar in the schemas that are merged.
  have hjoins : ∀ e ∈ edges, e.outbound.schemaId ≠ e.inbound.schemaId ∧ ∃ scalar,
      (∃ s, m.schemas.lookup e.outbound.schemaId = some s ∧ e.outbound.LeadsTo s scalar) ∧
      ∃ t, m.schemas.lookup e.inbound.schemaId = some t ∧ e.inbound.LeadsTo t scalar := by
    intro e he
    obtain ⟨-, hne, scalar, hout, hin⟩ := Edge.checkEndpoints_eq_ok_iff.1 (hedges e he).2.1
    have hwell : ∀ {label s}, m.schemas.lookup label = some s → s.WellFormed :=
      fun hs => wellFormed_of_lookup h hs
    exact ⟨hne, scalar, (Endpoint.scalarType_eq_ok_iff fun _ => hwell).1 hout,
      (Endpoint.scalarType_eq_ok_iff fun _ => hwell).1 hin⟩
  have hdocuments : ∀ {r : Endpoint} {scalar : Name},
      (∃ s, m.schemas.lookup r.schemaId = some s ∧ r.LeadsTo s scalar) →
        r.LeadsToIn documents scalar := by
    rintro r scalar ⟨s, hs, hleads⟩
    obtain ⟨x, hx, hxs⟩ := exists_document_of_lookup h hs
    exact ⟨x, s, hx, hxs, hleads⟩
  refine ⟨fun e he => ?_, Edge.flatMap_addedFields_nodup hnames, ?_⟩
  · obtain ⟨hne, scalar, hout, hin⟩ := hjoins e he
    exact ⟨hne, scalar, hdocuments hout, hdocuments hin⟩
  · intro type field hmem label x s hx hs d hd hname
    obtain ⟨e, he, hadded⟩ := List.mem_flatMap.1 hmem
    obtain ⟨a, ha, heq⟩ := List.mem_map.1 hadded
    cases heq
    have hnew := Edge.checkFields_eq_ok_iff.1 (hedges e he).2.2 a ha
    obtain ⟨-, scalar, ⟨s₁, hs₁, hout⟩, s₂, hs₂, hin⟩ := hjoins e he
    rcases Edge.mem_additions.1 ha with rfl | ⟨-, rfl⟩
    · exact ne_of_checkAdded h hs₁ hout hnew hx hs hd hname
    · exact ne_of_checkAdded h hs₂ hin hnew hx hs hd hname

end Mergeable

namespace Sample

def holidays : Document := ⟨[
  .type ⟨none, "Query", [], .object [] [field "Holiday" (.named "Holiday")]⟩,
  .type ⟨none, "Holiday", [], .object [] [field "date" (.nonNull (.named "Date"))]⟩,
  .type ⟨none, "Date", [], .scalar⟩]⟩

def eventsAndHolidays : Catalogue Document := .ofList [("events", events), ("holidays", holidays)]

/-- Two edges between the same fields, one of which goes one way only. -/
def dateEdges : List Edge :=
  let event : Endpoint := ⟨"events", "Event", "on"⟩
  let holiday : Endpoint := ⟨"holidays", "Holiday", "date"⟩
  [⟨"During", event, holiday, false⟩, ⟨"Guest", holiday, event, true⟩]

theorem addedFields_dateEdges : ∃ m,
    Mergeable.check eventsAndHolidays dateEdges .standard = .ok m ∧
    (∀ e ∈ dateEdges, e.outbound.schemaId ≠ e.inbound.schemaId ∧
      ∃ scalar, e.outbound.LeadsToIn eventsAndHolidays scalar ∧
        e.inbound.LeadsToIn eventsAndHolidays scalar) ∧
    (dateEdges.flatMap Edge.addedFields).Nodup ∧
    ∀ type field, (type, field) ∈ dateEdges.flatMap Edge.addedFields →
      ∀ label x s, eventsAndHolidays.get? label = some x → x.supportedSchema = .ok s →
        ∀ d ∈ s.types, d.name = type → ∀ f ∈ d.fields, f.name ≠ field :=
  ⟨_, rfl, Mergeable.addedFields_of_check
    (show Mergeable.check eventsAndHolidays dateEdges .standard = .ok _ from rfl)⟩

example : dateEdges.flatMap Edge.addedFields =
    [("Event", "out_During"), ("Holiday", "in_During"), ("Holiday", "out_Guest")] := by decide

end Sample

end SchemaReshape
