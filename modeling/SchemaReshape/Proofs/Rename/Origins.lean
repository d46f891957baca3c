import Mathlib.Data.Set.Function
import SchemaReshape.Proofs.Rename.FormerNames

/-!
# Origins of types

The former names of a renamed document come from the plan and the schema alone, without a look at
the types of the document. They are right for it all the same: the former name of a type is the name
of the type that it was made from (`Schema.applyType?_eq_some_iff_formerName`), so that former names
pair the types of the document with those that stay (`Document.formerNames_rename`).
-/

namespace SchemaReshape

variable {document : Document} {s : Schema} {plan : Plan} {settings : Settings}
variable (hs : document.Supports s) (h : s.Admits plan settings) (hspares : plan.SparesBuiltins)

namespace Schema

section Names

include h hspares

theorem mem_keys_formerNames_iff {m : Name} :
    m ∈ (s.formerNames plan).keys ↔
      ∃ d ∈ s.types, plan.newName? d.name = some m ∧ m ≠ d.name := by
  rw [SortedMap.mem_keys_iff]
  simp only [get?_formerNames_iff h hspares]
  constructor
  · rintro ⟨_, ⟨d, hd, rfl⟩, hname, hne⟩
    exact ⟨d, hd, hname, hne⟩
  · rintro ⟨d, hd, hname, hne⟩
    exact ⟨d.name, ⟨d, hd, rfl⟩, hname, hne⟩

theorem nodup_values_formerNames : (s.formerNames plan).values.Nodup := by
  refine SortedMap.nodup_values fun m m' n hm hm' => ?_
  obtain ⟨-, hname, -⟩ := (get?_formerNames_iff h hspares).1 hm
  obtain ⟨-, hname', -⟩ := (get?_formerNames_iff h hspares).1 hm'
  exact Option.some.inj (hname.symm.trans hname')

end Names

include hs h hspares

theorem getD_formerNames_applyType {d : TypeDefinition} (hd : d ∈ s.types)
    (hkept : plan.suppresses d.name = false) :
    ((s.formerNames plan).get? (plan.applyType s.queryType d).name).getD
      (plan.applyType s.queryType d).name = d.name := by
  rw [name_applyType hs h hd]
  exact getD_formerNames h hspares hd (Plan.newName?_eq_some_iff.2 ⟨hkept, rfl⟩)

/-- A former name is the name of the type that the renaming made a type from. -/
theorem applyType?_eq_some_iff_formerName {d e : TypeDefinition} (hd : d ∈ s.types)
    (he : e ∈ (s.renamed plan).types) :
    plan.applyType? s.queryType d = some e ↔
      ((s.formerNames plan).get? e.name).getD e.name = d.name := by
  obtain ⟨d', hd', hkept, rfl⟩ := mem_types_renamed.1 he
  rw [getD_formerNames_applyType hs h hspares hd' hkept, Plan.applyType?_eq_some_iff]
  constructor
  · rintro ⟨hdkept, heq⟩
    have hformer := getD_formerNames_applyType hs h hspares hd hdkept
    rw [heq, getD_formerNames_applyType hs h hspares hd' hkept] at hformer
    exact hformer
  · intro hname
    obtain rfl : d' = d := hs.wellFormed.eq_of_name_eq hd' hd hname
    exact ⟨hkept, rfl⟩

theorem exists_unique_origin {e : TypeDefinition} (he : e ∈ (s.renamed plan).types) :
    ∃! d, d ∈ s.types ∧ plan.applyType? s.queryType d = some e := by
  obtain ⟨d, hd, hkept, hmade⟩ := mem_types_renamed.1 he
  have horigin : plan.applyType? s.queryType d = some e :=
    (plan.applyType?_eq_some_iff s.queryType).2 ⟨hkept, hmade⟩
  refine ⟨d, ⟨hd, horigin⟩, ?_⟩
  rintro d' ⟨hd', horigin'⟩
  rw [applyType?_eq_some_iff_formerName hs h hspares hd he] at horigin
  rw [applyType?_eq_some_iff_formerName hs h hspares hd' he] at horigin'
  exact hs.wellFormed.eq_of_name_eq hd' hd (horigin'.symm.trans horigin)

end Schema

namespace RenamedDocument

variable {r : RenamedDocument} (hnames : r.formerNames = s.formerNames plan)
variable (htypes : r.document.types = (s.renamed plan).types)

include hs h hspares hnames

theorem formerName_eq {d : TypeDefinition} (hd : d ∈ s.types)
    (hkept : plan.suppresses d.name = false) :
    r.formerName (plan.applyType s.queryType d).name = d.name := by
  rw [formerName, hnames, Schema.getD_formerNames_applyType hs h hspares hd hkept]

include htypes

theorem mapsTo_formerName :
    Set.MapsTo (fun e => r.formerName e.name) {e | e ∈ r.document.types}
      {n | ∃ d ∈ s.types, d.name = n ∧ plan.suppresses n = false} := by
  rintro e (he : e ∈ r.document.types)
  rw [htypes] at he
  obtain ⟨d, hd, hkept, rfl⟩ := Schema.mem_types_renamed.1 he
  have hformer := formerName_eq hs h hspares hnames hd hkept
  exact ⟨d, hd, hformer.symm, (congrArg plan.suppresses hformer).trans hkept⟩

theorem injOn_formerName :
    Set.InjOn (fun e => r.formerName e.name) {e | e ∈ r.document.types} := by
  rintro e (he : e ∈ r.document.types) e' (he' : e' ∈ r.document.types) hformer
  rw [htypes] at he he'
  obtain ⟨d, hd, hkept, rfl⟩ := Schema.mem_types_renamed.1 he
  obtain ⟨d', hd', hkept', rfl⟩ := Schema.mem_types_renamed.1 he'
  simp only [formerName_eq hs h hspares hnames hd hkept,
    formerName_eq hs h hspares hnames hd' hkept'] at hformer
  rw [hs.wellFormed.eq_of_name_eq hd hd' hformer]

theorem surjOn_formerName :
    Set.SurjOn (fun e => r.formerName e.name) {e | e ∈ r.document.types}
      {n | ∃ d ∈ s.types, d.name = n ∧ plan.suppresses n = false} := by
  rintro _ ⟨d, hd, rfl, hkept⟩
  refine ⟨plan.applyType s.queryType d, ?_, formerName_eq hs h hspares hnames hd hkept⟩
  change _ ∈ r.document.types
  rw [htypes]
  exact Schema.mem_types_renamed.2 ⟨d, hd, hkept, rfl⟩

end RenamedDocument

/-- If no entry is for a scalar of the language, the former names undo exactly the new names: they
have a key for every type that stays under another name, no value twice, and take every type of the
renamed document to the one type that it was made from, so that the types of the renamed document
correspond to those that stay. -/
theorem Document.formerNames_rename {document : Document} {plan : Plan} {settings : Settings}
    {r : RenamedDocument} (h : document.rename plan settings = .ok r)
    (hspares : plan.SparesBuiltins) :
    (∀ m, m ∈ r.formerNames.keys ↔
      ∃ d ∈ document.types, plan.newName? d.name = some m ∧ m ≠ d.name) ∧
    r.formerNames.values.Nodup ∧
    (∃ queryType, document.roots.query? = some queryType ∧ ∀ e ∈ r.document.types,
      (∃! d, d ∈ document.types ∧ plan.applyType? queryType d = some e) ∧
      ∀ d ∈ document.types,
        plan.applyType? queryType d = some e ↔ r.formerName e.name = d.name) ∧
    (r.document.types.map (·.name)).Nodup ∧
    Set.BijOn (fun e => r.formerName e.name) {e | e ∈ r.document.types}
      {n | ∃ d ∈ document.types, d.name = n ∧ plan.suppresses n = false} := by
  obtain ⟨s, hs, hadmits, rfl⟩ := rename_eq_ok_iff.1 h
  have hquery : document.roots.query? = some s.queryType := by rw [hs.roots_eq]
  have htypes : (plan.applyDocument s.queryType document).types = (s.renamed plan).types := by
    rw [Plan.types_applyDocument, ← hs.types, Schema.renamed]
  rw [← hs.types]
  refine ⟨fun m => Schema.mem_keys_formerNames_iff hadmits hspares,
    Schema.nodup_values_formerNames hadmits hspares, ⟨s.queryType, hquery, fun e he => ?_⟩, ?_,
    RenamedDocument.mapsTo_formerName hs hadmits hspares rfl htypes,
    RenamedDocument.injOn_formerName hs hadmits hspares rfl htypes,
    RenamedDocument.surjOn_formerName hs hadmits hspares rfl htypes⟩
  · rw [htypes] at he
    exact ⟨Schema.exists_unique_origin hs hadmits hspares he,
      fun d hd => Schema.applyType?_eq_some_iff_formerName hs hadmits hspares hd he⟩
  · rw [htypes]
    exact Schema.types_renamed_nodup hs hadmits

theorem Sample.formerNames_rename_pets : ∃ r, pets.rename swap .standard = .ok r ∧
    swap.SparesBuiltins ∧
    (∀ m, m ∈ r.formerNames.keys ↔
      ∃ d ∈ pets.types, swap.newName? d.name = some m ∧ m ≠ d.name) ∧
    r.formerNames.values.Nodup ∧
    (∃ queryType, pets.roots.query? = some queryType ∧ ∀ e ∈ r.document.types,
      (∃! d, d ∈ pets.types ∧ swap.applyType? queryType d = some e) ∧
      ∀ d ∈ pets.types,
        swap.applyType? queryType d = some e ↔ r.formerName e.name = d.name) ∧
    (r.document.types.map (·.name)).Nodup ∧
    Set.BijOn (fun e => r.formerName e.name) {e | e ∈ r.document.types}
      {n | ∃ d ∈ pets.types, d.name = n ∧ swap.suppresses n = false} :=
  have hrename : pets.rename swap .standard = .ok _ := rfl
  ⟨_, hrename, by decide, Document.formerNames_rename hrename (by decide)⟩

end SchemaReshape
