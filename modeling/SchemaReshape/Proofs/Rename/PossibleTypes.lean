import SchemaReshape.Proofs.Rename.Validity

/-!
# Possible types under a renaming

The possible types of an interface are found by its name among what other types implement, those of
a union are listed by name. As a plan that a schema admits gives no name twice, to find them under
the new names is to rename what was found before (`Schema.mem_possibleTypes_renamed`), so that types
overlap after the renaming as they did before (`Document.possibleTypes_rename`).
-/

namespace SchemaReshape

namespace Schema

theorem possibleTypes_eq_of_types {s t : Schema} (h : s.types = t.types) (n : Name) :
    s.possibleTypes n = t.possibleTypes n := by
  unfold possibleTypes type? implementers
  rw [h]

variable {s : Schema}

theorem exists_type_of_mem_possibleTypes (h : s.WellFormed) {n k : Name}
    (hk : k ∈ s.possibleTypes n) : ∃ t ∈ s.types, t.name = k := by
  obtain ⟨d, hd, hpossible⟩ := mem_possibleTypes.1 hk
  have hmem : d ∈ s.types := mem_types_of_type? hd
  rcases hpossible with ⟨-, rfl⟩ | ⟨-, himplements⟩ | hmember
  · exact ⟨d, hmem, rfl⟩
  · obtain ⟨t, ht, -, -, hname⟩ := mem_implementers.1 himplements
    exact ⟨t, ht, hname⟩
  · obtain ⟨t, ht, -⟩ := (h.types_resolve d hmem).members k hmember
    exact ⟨t, mem_types_of_type? ht, name_eq_of_type? ht⟩

section Renamed

variable {document : Document} {plan : Plan} {settings : Settings}
variable (hs : document.Supports s) (h : s.Admits plan settings)

include h

theorem eq_of_newName?_eq {n k m : Name} (hn : ∃ d ∈ s.types, d.name = n)
    (hk : ∃ d ∈ s.types, d.name = k) (hnm : plan.newName? n = some m)
    (hkm : plan.newName? k = some m) : n = k := by
  obtain ⟨d, hd, rfl⟩ := hn
  obtain ⟨e, he, rfl⟩ := hk
  exact h.name_eq hd he hnm hkm

include hs

theorem mem_implementers_renamed {n n' m : Name} (hn : ∃ d ∈ s.types, d.name = n)
    (hname : plan.newName? n = some n') :
    m ∈ (s.renamed plan).implementers n' ↔ ∃ k ∈ s.implementers n, plan.newName? k = some m := by
  rw [mem_implementers]
  constructor
  · rintro ⟨e, he, hobject, hinterface, rfl⟩
    obtain ⟨d, hd, hkept, rfl⟩ := mem_types_renamed.1 he
    rw [Plan.isObject_applyType] at hobject
    rw [Plan.interfaces_applyType, Plan.mem_applyNames] at hinterface
    obtain ⟨i, hi, hikept, hiname⟩ := hinterface
    have hdefined : ∃ t ∈ s.types, t.name = i := by
      obtain ⟨t, ht, -⟩ := (hs.wellFormed.types_resolve d hd).interfaces i hi
      exact ⟨t, mem_types_of_type? ht, name_eq_of_type? ht⟩
    obtain rfl : i = n :=
      eq_of_newName?_eq h hdefined hn (Plan.newName?_eq_some_iff.2 ⟨hikept, hiname⟩) hname
    refine ⟨d.name, mem_implementers.2 ⟨d, hd, hobject, hi, rfl⟩, ?_⟩
    rw [name_applyType hs h hd]
    exact Plan.newName?_eq_some_iff.2 ⟨hkept, rfl⟩
  · rintro ⟨k, hk, hkname⟩
    obtain ⟨d, hd, hobject, hinterface, rfl⟩ := mem_implementers.1 hk
    obtain ⟨hkept, rfl⟩ := Plan.newName?_eq_some_iff.1 hkname
    refine ⟨_, mem_types_renamed.2 ⟨d, hd, hkept, rfl⟩, ?_, ?_, name_applyType hs h hd⟩
    · rw [Plan.isObject_applyType, hobject]
    · rw [Plan.interfaces_applyType, Plan.mem_applyNames]
      exact ⟨n, hinterface, Plan.newName?_eq_some_iff.1 hname⟩

/-- The possible types of a type that stays are the new names of those that stay. -/
theorem mem_possibleTypes_renamed {d : TypeDefinition} (hd : d ∈ s.types) {n m : Name}
    (hname : plan.newName? d.name = some n) :
    m ∈ (s.renamed plan).possibleTypes n ↔
      ∃ k ∈ s.possibleTypes d.name, plan.newName? k = some m := by
  have hfound : s.type? d.name = some d :=
    (type?_eq_some_iff hs.wellFormed.types_nodup).2 ⟨hd, rfl⟩
  obtain ⟨hkept, hnew⟩ := Plan.newName?_eq_some_iff.1 hname
  have hfound' : (s.renamed plan).type? n = some (plan.applyType s.queryType d) :=
    hnew ▸ type?_renamed hs h hfound hkept
  have himplementers : m ∈ (s.renamed plan).implementers n ↔
      ∃ k ∈ s.implementers d.name, plan.newName? k = some m :=
    mem_implementers_renamed hs h ⟨d, hd, rfl⟩ hname
  simp only [mem_possibleTypes, hfound, hfound', Option.some.injEq, exists_eq_left',
    Plan.isObject_applyType, Plan.isInterface_applyType, Plan.members_applyType,
    name_applyType hs h hd, hnew, himplementers, Plan.mem_applyNames]
  constructor
  · rintro (⟨hobject, rfl⟩ | ⟨hinterface, k, hk, hkname⟩ | ⟨k, hk, hkname⟩)
    · exact ⟨d.name, .inl ⟨hobject, rfl⟩, hname⟩
    · exact ⟨k, .inr (.inl ⟨hinterface, hk⟩), hkname⟩
    · exact ⟨k, .inr (.inr hk), Plan.newName?_eq_some_iff.2 hkname⟩
  · rintro ⟨k, ⟨hobject, rfl⟩ | ⟨hinterface, hk⟩ | hk, hkname⟩
    · exact .inl ⟨hobject, Option.some.inj (hkname.symm.trans hname)⟩
    · exact .inr (.inl ⟨hinterface, k, hk, hkname⟩)
    · exact .inr (.inr ⟨k, hk, Plan.newName?_eq_some_iff.1 hkname⟩)

end Renamed

end Schema

/-- The possible types of every type that stays are renamed with it, so that two types that stay
overlap in the schema of the renamed document if a possible type that they share stays, too. -/
theorem Document.possibleTypes_rename {document : Document} {s s' : Schema} {plan : Plan}
    {settings : Settings} {r : RenamedDocument} (hs : document.supportedSchema = .ok s)
    (h : document.rename plan settings = .ok r) (hs' : Schema.build r.document = .ok s') :
    (∀ d ∈ s.types, ∀ n, plan.newName? d.name = some n → ∀ m, m ∈ s'.possibleTypes n ↔
      ∃ k ∈ s.possibleTypes d.name, plan.newName? k = some m) ∧
    ∀ d ∈ s.types, ∀ e ∈ s.types, ∀ n n', plan.newName? d.name = some n →
      plan.newName? e.name = some n' →
      ((s'.possibleTypes n).meets (s'.possibleTypes n') = true ↔
        ∃ k, k ∈ s.possibleTypes d.name ∧ k ∈ s.possibleTypes e.name ∧
          plan.suppresses k = false) := by
  obtain ⟨hs, hadmits, rfl⟩ := admits_of_rename hs h
  have htypes : s'.types = (s.renamed plan).types :=
    (Schema.build_eq_ok_iff.1 hs').1.trans (types_applyDocument_eq hs)
  have hpossible : ∀ d ∈ s.types, ∀ n, plan.newName? d.name = some n → ∀ m,
      m ∈ s'.possibleTypes n ↔ ∃ k ∈ s.possibleTypes d.name, plan.newName? k = some m := by
    intro d hd n hname m
    rw [Schema.possibleTypes_eq_of_types htypes]
    exact Schema.mem_possibleTypes_renamed hs hadmits hd hname
  refine ⟨hpossible, fun d hd e he n n' hdname hename => ?_⟩
  rw [SortedSet.meets_iff]
  simp only [hpossible d hd n hdname, hpossible e he n' hename]
  constructor
  · rintro ⟨m, ⟨k, hk, hkname⟩, k', hk', hkname'⟩
    obtain rfl : k = k' := Schema.eq_of_newName?_eq hadmits
      (Schema.exists_type_of_mem_possibleTypes hs.wellFormed hk)
      (Schema.exists_type_of_mem_possibleTypes hs.wellFormed hk') hkname hkname'
    exact ⟨k, hk, hk', (Plan.newName?_eq_some_iff.1 hkname).1⟩
  · rintro ⟨k, hk, hk', hkept⟩
    have hkname : plan.newName? k = some (plan.newName k) :=
      Plan.newName?_eq_some_iff.2 ⟨hkept, rfl⟩
    exact ⟨plan.newName k, ⟨k, hk, hkname⟩, k, hk', hkname⟩

theorem Sample.possibleTypes_rename_pets : ∃ s r s',
    pets.supportedSchema = .ok s ∧ pets.rename swap .standard = .ok r ∧
    Schema.build r.document = .ok s' ∧
    (∀ d ∈ s.types, ∀ n, swap.newName? d.name = some n → ∀ m, m ∈ s'.possibleTypes n ↔
      ∃ k ∈ s.possibleTypes d.name, swap.newName? k = some m) ∧
    ∀ d ∈ s.types, ∀ e ∈ s.types, ∀ n n', swap.newName? d.name = some n →
      swap.newName? e.name = some n' →
      ((s'.possibleTypes n).meets (s'.possibleTypes n') = true ↔
        ∃ k, k ∈ s.possibleTypes d.name ∧ k ∈ s.possibleTypes e.name ∧
          swap.suppresses k = false) :=
  have hrename : pets.rename swap .standard = .ok _ := rfl
  have hbuild : Schema.build _ = .ok _ := rfl
  ⟨_, _, _, rfl, hrename, hbuild, Document.possibleTypes_rename rfl hrename hbuild⟩

end SchemaReshape
