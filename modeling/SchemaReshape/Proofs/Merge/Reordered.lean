import SchemaReshape.Proofs.Merge.AddedFields

/-!
# Order of schemas and edges

The claims to names are compared with the first ones that were seen, and the edges are checked
against the names before them, so that another order leads to other comparisons and another fault to
be told first. Whether all is well does not depend on it: claims pass if every two of them agree,
which is symmetric, and edges pass by themselves if no two have one name. So schemas and edges that
can be merged can be merged in any order (`Mergeable.check_reordered_iff`).
-/

namespace SchemaReshape

open Check

section Lookup

variable {schemas schemas' : SchemaList}
variable (h : ∀ label, schemas.lookup label = schemas'.lookup label)

include h

namespace Endpoint

variable (r : Endpoint)

theorem owner_congr : r.owner schemas = r.owner schemas' := by rw [owner, owner, h]

theorem scalarType_congr : r.scalarType schemas = r.scalarType schemas' := by
  rw [scalarType, scalarType, owner_congr h]

theorem checkAdded_congr (added : Name) :
    r.checkAdded schemas added = r.checkAdded schemas' added := by
  rw [checkAdded, checkAdded, h]

end Endpoint

namespace Edge

variable (e : Edge)

/-- Of the schemas, an edge looks at those that it names. -/
theorem checkEndpoints_congr : e.checkEndpoints schemas = e.checkEndpoints schemas' := by
  simp only [checkEndpoints, Endpoint.scalarType_congr h]

theorem checkFields_congr : e.checkFields schemas = e.checkFields schemas' := by
  simp only [checkFields, Endpoint.checkAdded_congr h]

theorem check_reordered {edges edges' : List Edge} (hperm : edges.Perm edges')
    (hcheck : check schemas [] edges = .ok ()) : check schemas' [] edges' = .ok () := by
  rw [check_eq_ok_iff_of_seen] at *
  obtain ⟨hpass, hnames⟩ := hcheck
  refine ⟨fun e he => ?_, (hperm.map _).nodup_iff.1 hnames⟩
  rw [← checkEndpoints_congr h, ← checkFields_congr h]
  exact hpass e (hperm.mem_iff.2 he)

end Edge

end Lookup

theorem TypeClaim.check_reordered {claims claims' : List TypeClaim}
    (hproper : ∀ c ∈ claims, c.IsProper) (hperm : claims.Perm claims')
    (h : check [] claims = .ok ()) : check [] claims' = .ok () := by
  have hproper' : ∀ c ∈ claims', c.IsProper := fun c hc => hproper c (hperm.mem_iff.2 hc)
  rw [check_eq_ok_iff hproper] at h
  rw [check_eq_ok_iff hproper']
  exact (hperm.pairwise_iff Agrees.symm).1 h

namespace Mergeable

variable {documents documents' : Catalogue Document} {edges edges' : List Edge}
variable {settings : Settings} {m : Mergeable}

theorem map_fst_schemas_of_check (h : check documents edges settings = .ok m) :
    m.schemas.map (·.1) = documents.toList.map (·.1) := by
  have hsteps := mapM_eq_ok_iff_forall₂.1 (mapM_checkSchema_of_check h)
  have hlabels : List.Forall₂ Eq (documents.toList.map (·.1)) (m.schemas.map (·.1)) := by
    rw [List.forall₂_map_left_iff, List.forall₂_map_right_iff]
    refine hsteps.imp fun x s hs => ?_
    obtain ⟨-, -, hlabel⟩ := checkSchema_eq_ok_iff.1 hs
    exact hlabel.symm
  rw [List.forall₂_eq_eq_eq] at hlabels
  exact hlabels.symm

/-- What can be merged can be merged in another order, with the same schemas as the outcome. -/
theorem exists_check_of_perm (h : check documents edges settings = .ok m)
    (hdocuments : documents'.toList.Perm documents.toList) (hedges : edges'.Perm edges) :
    ∃ m', check documents' edges' settings = .ok m' ∧ m'.schemas.Perm m.schemas ∧
      m'.edges = edges' := by
  obtain ⟨hschemas, hclaims, hpass, -⟩ := check_eq_ok_iff.1 h
  obtain ⟨schemas', hschemas', hperm⟩ := exists_perm_of_mapM_eq_ok hschemas hdocuments
  have hdistinct : (m.schemas.map (·.1)).Nodup := map_fst_schemas_of_check h ▸ documents.distinct
  have hproper := TypeClaim.isProper_of_mem_flatMap_ofSchema settings
    fun _ => wellFormed_of_mem_schemas h
  have hclaims' := TypeClaim.check_reordered hproper (hperm.symm.flatMap_right _) hclaims
  have hlookup := Catalogue.lookup_eq_of_perm hperm.symm hdistinct
  have hpass' := Edge.check_reordered hlookup hedges.symm hpass
  exact ⟨⟨schemas', edges'⟩, check_eq_ok_iff.2 ⟨hschemas', hclaims', hpass', rfl⟩, hperm, rfl⟩

/-- Whether schemas and edges can be merged does not depend on their order. -/
theorem check_reordered_iff (hdocuments : documents.toList.Perm documents'.toList)
    (hedges : edges.Perm edges') (settings : Settings) :
    (∃ m, check documents' edges' settings = .ok m) ↔
      ∃ m, check documents edges settings = .ok m := by
  constructor
  · rintro ⟨m, hm⟩
    obtain ⟨m', hm', -⟩ := exists_check_of_perm hm hdocuments hedges
    exact ⟨m', hm'⟩
  · rintro ⟨m, hm⟩
    obtain ⟨m', hm', -⟩ := exists_check_of_perm hm hdocuments.symm hedges.symm
    exact ⟨m', hm'⟩

end Mergeable

namespace Sample

def holidaysAndEvents : Catalogue Document := .ofList [("holidays", holidays), ("events", events)]

theorem check_holidaysAndEvents_iff :
    eventsAndHolidays.toList.Perm holidaysAndEvents.toList ∧ dateEdges.Perm dateEdges.reverse ∧
      ((∃ m, Mergeable.check holidaysAndEvents dateEdges.reverse .standard = .ok m) ↔
        ∃ m, Mergeable.check eventsAndHolidays dateEdges .standard = .ok m) :=
  ⟨.swap _ _ [], .swap _ _ [],
    Mergeable.check_reordered_iff (.swap _ _ []) (.swap _ _ []) .standard⟩

end Sample

end SchemaReshape
