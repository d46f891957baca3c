import SchemaReshape.Proofs.Schema.Roots

/-!
# Order of definitions

Of definitions in another order the checks of a document can tell another fault first, but they
find one or they find none: among distinct names a look-up does not depend on the order, and all
else is asked of each definition. A document with at most one schema definition is supported in
every order if it is in one, and its schemas have the same definitions and the same roots
(`Document.Supports.reordered`).
-/

namespace SchemaReshape

/-- The schemas have the same definitions in any order, and the same roots. -/
structure Schema.Reorders (s t : Schema) : Prop where
  types : s.types.Perm t.types
  directives : s.directives.Perm t.directives
  roots : s.roots = t.roots

namespace Schema.Reorders

variable {s t : Schema} (h : s.Reorders t)

include h

theorem queryType_eq : s.queryType = t.queryType :=
  Option.some.inj (congrArg RootTypes.query? h.roots)

theorem type?_eq (hs : s.WellFormed) (n : Name) : s.type? n = t.type? n := by
  have hnodup : (t.types.map (·.name)).Nodup := (h.types.map _).nodup_iff.1 hs.types_nodup
  refine Option.ext fun d => ?_
  rw [type?_eq_some_iff hs.types_nodup, type?_eq_some_iff hnodup, h.types.mem_iff]

theorem isDefined_eq (n : Name) : s.isDefined n = t.isDefined n := by
  rw [Bool.eq_iff_iff, isDefined_iff, isDefined_iff]
  simp only [h.types.mem_iff]

theorem resolves (hs : s.WellFormed) {d : TypeDefinition} (hd : s.Resolves d) : t.Resolves d := by
  refine ⟨fun n hn => ?_, fun n hn => ?_, fun field hfield n hn => ?_, fun field hfield => ?_⟩
  · rw [← h.type?_eq hs]
    exact hd.interfaces n hn
  · rw [← h.type?_eq hs]
    exact hd.members n hn
  · rw [← h.isDefined_eq]
    exact hd.fields field hfield n hn
  · rw [← h.isDefined_eq]
    exact hd.inputFields field hfield

theorem wellFormed (hs : s.WellFormed) : t.WellFormed where
  types_nodup := (h.types.map _).nodup_iff.1 hs.types_nodup
  types_not_builtin d hd := hs.types_not_builtin d (h.types.mem_iff.2 hd)
  directives_nodup := (h.directives.map _).nodup_iff.1 hs.directives_nodup
  roots_object n hn := by
    rw [← h.type?_eq hs]
    exact hs.roots_object n (h.roots ▸ hn)
  types_resolve d hd := h.resolves hs (hs.types_resolve d (h.types.mem_iff.2 hd))
  directives_resolve d hd n hn := by
    rw [← h.isDefined_eq]
    exact hs.directives_resolve d (h.directives.mem_iff.2 hd) n hn

end Schema.Reorders

namespace Document

variable {x y : Document} (hperm : x.definitions.Perm y.definitions)

include hperm

theorem types_perm : x.types.Perm y.types := hperm.filterMap _

theorem directives_perm : x.directives.Perm y.directives := hperm.filterMap _

variable (hschemas : x.schemas.length ≤ 1)

include hschemas

theorem schemas_eq_of_perm : x.schemas = y.schemas := by
  have hschemas' : x.schemas.Perm y.schemas := hperm.filterMap _
  match x.schemas, hschemas, hschemas' with
  | [], _, h => exact (List.nil_perm.1 h).symm
  | [d], _, h => exact List.singleton_perm.1 h

theorem roots_eq_of_perm : x.roots = y.roots := by
  have heq := schemas_eq_of_perm hperm hschemas
  cases hx : x.schemas with
  | nil =>
    have htypes : ∀ d, d ∈ x.types ↔ d ∈ y.types := fun d => (types_perm hperm).mem_iff
    rw [roots_of_schemas_eq_nil hx, roots_of_schemas_eq_nil (heq.symm.trans hx)]
    simp only [map_name_type?_eq, htypes]
  | cons d ds =>
    have hy : y.schemas = d :: ds := heq.symm.trans hx
    simp only [roots, hx, hy, List.head?_cons]

/-- A document that is supported is supported in another order. -/
theorem Supports.reordered {s : Schema} (hs : x.Supports s) :
    ∃ t, y.Supports t ∧ s.Reorders t := by
  have hreorders : s.Reorders { s with types := y.types, directives := y.directives } :=
    ⟨hs.types ▸ types_perm hperm, hs.directives ▸ directives_perm hperm, rfl⟩
  have hwell := hreorders.wellFormed hs.wellFormed
  refine ⟨{ s with types := y.types, directives := y.directives }, ⟨rfl, rfl, ?_, hs.mutationType,
    hs.subscriptionType, hwell, fun d hd => ?_, fun d hd => ?_⟩, hreorders⟩
  · rw [← roots_eq_of_perm hperm hschemas, hs.roots]
    rfl
  · exact hs.supported d (hperm.mem_iff.2 hd)
  · exact hs.fieldsAgree d ((types_perm hperm).mem_iff.2 hd)

end Document

end SchemaReshape
