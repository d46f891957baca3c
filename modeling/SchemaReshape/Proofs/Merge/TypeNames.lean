import Mathlib.Data.List.Pairwise
import SchemaReshape.Merge.Basic
import SchemaReshape.Proofs.Schema.Supported

/-!
# Types of one name in a merge

A claim to a name is compared with the first claim to it only. As no type is both a query type and
a scalar, to merge with the first is to merge with each other, so that the comparisons with one
representative are as good as those of all pairs (`TypeClaim.check_eq_ok_iff`). A scalar that counts
as built in makes no claim, and a type of another kind beside it is not noticed; apart from that,
types of one name in two schemas are both the query type or both scalars
(`Mergeable.sameKind_iff`).
-/

namespace SchemaReshape

open Check

namespace TypeClaim

/-- A query type is an object type and no scalar. -/
def IsProper (c : TypeClaim) : Prop := c.isQueryType = true → c.isScalar = false

variable {a b c : TypeClaim}

theorem mergesWith_iff :
    a.mergesWith b = true ↔
      a.isQueryType = true ∧ b.isQueryType = true ∨ a.isScalar = true ∧ b.isScalar = true := by
  rw [mergesWith, Bool.or_eq_true, Bool.and_eq_true, Bool.and_eq_true]

theorem mergesWith_symm (h : a.mergesWith b = true) : b.mergesWith a = true := by
  rw [mergesWith_iff] at *
  exact h.imp And.symm And.symm

/-- What merges with the same proper claim merges with each other. -/
theorem IsProper.mergesWith_of_mergesWith (hc : c.IsProper) (ha : c.mergesWith a = true)
    (hb : c.mergesWith b = true) : a.mergesWith b = true := by
  rw [mergesWith_iff] at *
  rcases ha with ⟨hquery, haquery⟩ | ⟨hscalar, hascalar⟩
  · have hnot : c.isScalar = false := hc hquery
    rw [hnot] at hb
    exact .inl ⟨haquery, by simpa using hb.imp And.right And.left⟩
  · have hnot : c.isQueryType ≠ true := by
      intro hquery
      rw [hc hquery] at hscalar
      exact Bool.false_ne_true hscalar
    exact .inr ⟨hascalar, (hb.resolve_left fun h => hnot h.1).2⟩

/-- The two merge if they claim one name. -/
def Agrees (a b : TypeClaim) : Prop := a.type = b.type → a.mergesWith b = true

theorem Agrees.symm (h : a.Agrees b) : b.Agrees a := fun heq => mergesWith_symm (h heq.symm)

/-- The claims pass if they agree among each other and with those before. The claims before are the
first ones for their names, which the induction keeps up. -/
theorem check_eq_ok_iff_of_seen {seen claims : List TypeClaim}
    (hproper : ∀ c ∈ seen ++ claims, c.IsProper) (hseen : (seen.map (·.type)).Nodup) :
    check seen claims = .ok () ↔
      claims.Pairwise Agrees ∧ ∀ a ∈ seen, ∀ b ∈ claims, a.Agrees b := by
  induction claims generalizing seen with
  | nil => simp [check]
  | cons claim rest ih =>
    rw [check]
    cases hfind : seen.find? (·.type == claim.type) with
    | none =>
      have hnew : ∀ a ∈ seen, a.type ≠ claim.type := by
        intro a ha
        simpa using List.find?_eq_none.1 hfind a ha
      have hnodup : ((seen ++ [claim]).map (·.type)).Nodup := by
        rw [List.map_append, List.nodup_append]
        refine ⟨hseen, List.nodup_singleton _, ?_⟩
        rintro n hn m hm rfl
        obtain ⟨a, ha, rfl⟩ := List.mem_map.1 hn
        exact hnew a ha (List.mem_singleton.1 hm)
      have hproper' : ∀ c ∈ (seen ++ [claim]) ++ rest, c.IsProper := by
        rwa [List.append_assoc]
      have hclaim : ∀ a ∈ seen, a.Agrees claim := fun a ha heq => absurd heq (hnew a ha)
      simp only [ih hproper' hnodup, List.pairwise_cons, List.forall_mem_append,
        List.forall_mem_singleton, List.forall_mem_cons]
      constructor
      · rintro ⟨hrest, hold, hnext⟩
        exact ⟨⟨hnext, hrest⟩, fun a ha => ⟨hclaim a ha, hold a ha⟩⟩
      · rintro ⟨⟨hnext, hrest⟩, hold⟩
        exact ⟨hrest, fun a ha => (hold a ha).2, hnext⟩
    | some first =>
      have hmem : first ∈ seen := List.mem_of_find?_eq_some hfind
      have hname : first.type = claim.type := by simpa using List.find?_some hfind
      have hproper' : ∀ c ∈ seen ++ rest, c.IsProper := by
        intro c hc
        refine hproper c ?_
        rw [List.mem_append] at hc ⊢
        exact hc.imp_right (List.mem_cons_of_mem claim)
      have hfirst : first.IsProper := hproper first (List.mem_append_left _ hmem)
      have hsole : ∀ a ∈ seen, a.type = claim.type → a = first := by
        intro a ha heq
        exact List.inj_on_of_nodup_map hseen ha hmem (heq.trans hname.symm)
      simp only [ite_throw_eq_ok_iff, ih hproper' hseen, List.pairwise_cons,
        List.forall_mem_cons]
      constructor
      · rintro ⟨hmerge, hrest, hold⟩
        have hnext : ∀ b ∈ rest, claim.Agrees b := by
          intro b hb heq
          exact hfirst.mergesWith_of_mergesWith hmerge (hold first hmem b hb (hname.trans heq))
        have hclaim : ∀ a ∈ seen, a.Agrees claim := by
          intro a ha heq
          rw [hsole a ha heq]
          exact hmerge
        exact ⟨⟨hnext, hrest⟩, fun a ha => ⟨hclaim a ha, hold a ha⟩⟩
      · rintro ⟨⟨-, hrest⟩, hold⟩
        exact ⟨(hold first hmem).1 hname, hrest, fun a ha => (hold a ha).2⟩

theorem check_eq_ok_iff {claims : List TypeClaim} (hproper : ∀ c ∈ claims, c.IsProper) :
    check [] claims = .ok () ↔ claims.Pairwise Agrees := by
  have hnodup : (([] : List TypeClaim).map (·.type)).Nodup := List.nodup_nil
  rw [check_eq_ok_iff_of_seen hproper hnodup]
  exact and_iff_left nofun

theorem mem_ofSchema {settings : Settings} {schemaId : String} {s : Schema} :
    c ∈ ofSchema settings schemaId s ↔
      ∃ d ∈ s.types, (settings.isBuiltinScalar d.name = true → d.isScalar = false) ∧
        c = ⟨d.name, schemaId, d.name == s.queryType, d.isScalar⟩ := by
  simp only [ofSchema, List.mem_map, List.mem_filter, Bool.not_eq_true', Bool.and_eq_false_imp,
    and_assoc, @eq_comm _ c]

theorem isProper_of_mem_ofSchema {settings : Settings} {schemaId : String} {s : Schema}
    (hs : s.WellFormed) (hc : c ∈ ofSchema settings schemaId s) : c.IsProper := by
  obtain ⟨d, hd, -, rfl⟩ := mem_ofSchema.1 hc
  intro hquery
  exact hs.isScalar_eq_false_of_queryType hd (by simpa using hquery)

theorem isProper_of_mem_flatMap_ofSchema (settings : Settings) {schemas : SchemaList}
    (h : ∀ s ∈ schemas, s.2.WellFormed) :
    ∀ c ∈ schemas.flatMap fun s => ofSchema settings s.1 s.2, c.IsProper := by
  intro c hc
  obtain ⟨s, hs, hc⟩ := List.mem_flatMap.1 hc
  exact isProper_of_mem_ofSchema (h s hs) hc

end TypeClaim

namespace Mergeable

variable {documents : Catalogue Document} {edges : List Edge} {settings : Settings}

theorem checkSchema_eq_ok_iff {label : String} {document : Document} {labelled : String × Schema} :
    checkSchema (label, document) = .ok labelled ↔
      checkIdentifier label = .ok () ∧ document.supportedSchema = .ok labelled.2 ∧
        labelled.1 = label := by
  obtain ⟨label', s⟩ := labelled
  simp only [checkSchema, bind_eq_ok_iff, mapError_eq_ok_iff, pure_eq_ok_iff, Prod.mk.injEq]
  constructor
  · rintro ⟨⟨⟩, hlabel, s, hs, rfl, rfl⟩
    exact ⟨hlabel, hs, rfl⟩
  · rintro ⟨hlabel, hs, rfl⟩
    exact ⟨(), hlabel, s, hs, rfl, rfl⟩

variable {m : Mergeable}

/-- The schemas are those of the documents, and their claims and the edges pass. -/
theorem check_eq_ok_iff :
    check documents edges settings = .ok m ↔
      documents.toList.mapM checkSchema = .ok m.schemas ∧
        TypeClaim.check [] (m.schemas.flatMap fun s => TypeClaim.ofSchema settings s.1 s.2) =
          .ok () ∧
        Edge.check m.schemas [] edges = .ok () ∧ m.edges = edges := by
  obtain ⟨schemas, edges'⟩ := m
  simp only [check, bind_eq_ok_iff, mapError_eq_ok_iff, pure_eq_ok_iff, mk.injEq]
  constructor
  · rintro ⟨_, hschemas, ⟨⟩, hclaims, ⟨⟩, hedges, rfl, rfl⟩
    exact ⟨hschemas, hclaims, hedges, rfl⟩
  · rintro ⟨hschemas, hclaims, hedges, rfl⟩
    exact ⟨schemas, hschemas, (), hclaims, (), hedges, rfl, rfl⟩

variable (h : check documents edges settings = .ok m)

include h

theorem mapM_checkSchema_of_check : documents.toList.mapM checkSchema = .ok m.schemas :=
  (check_eq_ok_iff.1 h).1

theorem mem_schemas_of_get? {label : String} {document : Document} {s : Schema}
    (hdocument : documents.get? label = some document) (hs : document.supportedSchema = .ok s) :
    (label, s) ∈ m.schemas := by
  have hmem : (label, document) ∈ documents.toList := Catalogue.mem_toList_of_get? hdocument
  obtain ⟨⟨label', s'⟩, hlabelled, hcheck⟩ :=
    exists_of_mapM_eq_ok (mapM_checkSchema_of_check h) hmem
  obtain ⟨-, hs', rfl⟩ := checkSchema_eq_ok_iff.1 hcheck
  obtain rfl : s' = s := Except.ok.inj (hs'.symm.trans hs)
  exact hlabelled

theorem wellFormed_of_mem_schemas {labelled : String × Schema} (hmem : labelled ∈ m.schemas) :
    labelled.2.WellFormed := by
  obtain ⟨⟨label, document⟩, -, hcheck⟩ :=
    exists_of_mem_of_mapM_eq_ok (mapM_checkSchema_of_check h) hmem
  exact (Document.supportedSchema_eq_ok_iff.1 (checkSchema_eq_ok_iff.1 hcheck).2.1).wellFormed

theorem agrees_of_mem_ofSchema {x y : String × Schema} (hx : x ∈ m.schemas) (hy : y ∈ m.schemas)
    (hne : x ≠ y) {a b : TypeClaim} (ha : a ∈ TypeClaim.ofSchema settings x.1 x.2)
    (hb : b ∈ TypeClaim.ofSchema settings y.1 y.2) : a.Agrees b := by
  have hproper := TypeClaim.isProper_of_mem_flatMap_ofSchema settings
    fun _ => wellFormed_of_mem_schemas h
  have hpairs := (TypeClaim.check_eq_ok_iff hproper).1 (check_eq_ok_iff.1 h).2.1
  rw [List.pairwise_flatMap] at hpairs
  have hsymm : Std.Symm fun x y : String × Schema =>
      ∀ a ∈ TypeClaim.ofSchema settings x.1 x.2, ∀ b ∈ TypeClaim.ofSchema settings y.1 y.2,
        a.Agrees b :=
    ⟨fun x y hxy b hb a ha => (hxy a ha b hb).symm⟩
  exact hpairs.2.forall hx hy hne a ha b hb

/-- Types of one name in two schemas are both the query type or both scalars, unless the name counts
as built in and just one of them is a scalar. -/
theorem sameKind_iff {a b : String} (hab : a ≠ b) {x y : Document}
    (hx : documents.get? a = some x) (hy : documents.get? b = some y) {s t : Schema}
    (hs : x.supportedSchema = .ok s) (ht : y.supportedSchema = .ok t) {d e : TypeDefinition}
    (hd : d ∈ s.types) (he : e ∈ t.types) (hname : d.name = e.name) :
    (d.name = s.queryType ∧ e.name = t.queryType ∨ d.isScalar = true ∧ e.isScalar = true) ↔
      (settings.isBuiltinScalar d.name = true → d.isScalar = e.isScalar) := by
  have hxs : (a, s) ∈ m.schemas := mem_schemas_of_get? h hx hs
  have hyt : (b, t) ∈ m.schemas := mem_schemas_of_get? h hy ht
  constructor
  · rintro (⟨hdquery, hequery⟩ | ⟨hdscalar, hescalar⟩) -
    · have hdscalar := (wellFormed_of_mem_schemas h hxs).isScalar_eq_false_of_queryType hd hdquery
      have hescalar := (wellFormed_of_mem_schemas h hyt).isScalar_eq_false_of_queryType he hequery
      rw [hdscalar, hescalar]
    · rw [hdscalar, hescalar]
  · intro hbuiltin
    by_cases hboth : d.isScalar = true ∧ e.isScalar = true
    · exact .inr hboth
    · -- A scalar that counts as built in makes no claim, but then both types are scalars.
      have hclaims : settings.isBuiltinScalar d.name = true →
          d.isScalar = false ∧ e.isScalar = false := by
        intro hb
        have heq := hbuiltin hb
        cases hdscalar : d.isScalar with
        | true => exact absurd ⟨hdscalar, heq ▸ hdscalar⟩ hboth
        | false => exact ⟨rfl, heq ▸ hdscalar⟩
      have hda : (⟨d.name, a, d.name == s.queryType, d.isScalar⟩ : TypeClaim) ∈
          TypeClaim.ofSchema settings a s :=
        TypeClaim.mem_ofSchema.2 ⟨d, hd, fun hb => (hclaims hb).1, rfl⟩
      have heb : (⟨e.name, b, e.name == t.queryType, e.isScalar⟩ : TypeClaim) ∈
          TypeClaim.ofSchema settings b t :=
        TypeClaim.mem_ofSchema.2 ⟨e, he, fun hb => (hclaims (hname ▸ hb)).2, rfl⟩
      have hne : (a, s) ≠ (b, t) := fun heq => hab (congrArg Prod.fst heq)
      have hmerges := agrees_of_mem_ofSchema h hxs hyt hne hda heb hname
      simpa [TypeClaim.mergesWith_iff] using hmerges

end Mergeable

namespace Sample

def events : Document := ⟨[
  .type ⟨none, "Date", [], .scalar⟩,
  .type ⟨none, "Query", [], .object [] [field "Event" (.named "Event")]⟩,
  .type ⟨none, "Event", [], .object [] [field "on" (.named "Date")]⟩]⟩

def fruits : Document := ⟨[
  .type ⟨none, "Query", [], .object [] [field "Date" (.named "Date")]⟩,
  .type ⟨none, "Date", [], .object [] [field "sweet" (.named "Boolean")]⟩]⟩

def eventsAndFruits : Catalogue Document := .ofList [("events", events), ("fruits", fruits)]

/-- The host has a date, too. -/
def withDate : Settings := Settings.standard.addBuiltinScalar "Date"

theorem sameKind_eventsAndFruits : ∃ m s t d e,
    Mergeable.check eventsAndFruits [] withDate = .ok m ∧ "events" ≠ "fruits" ∧
    eventsAndFruits.get? "events" = some events ∧ eventsAndFruits.get? "fruits" = some fruits ∧
    events.supportedSchema = .ok s ∧ fruits.supportedSchema = .ok t ∧
    d ∈ s.types ∧ e ∈ t.types ∧ d.name = e.name ∧
    ((d.name = s.queryType ∧ e.name = t.queryType ∨ d.isScalar = true ∧ e.isScalar = true) ↔
      (withDate.isBuiltinScalar d.name = true → d.isScalar = e.isScalar)) :=
  ⟨_, _, _, _, _, rfl, by decide, rfl, rfl, rfl, rfl, .head _, .tail _ (.head _), rfl,
    Mergeable.sameKind_iff (show Mergeable.check eventsAndFruits [] withDate = .ok _ from rfl)
      (a := "events") (b := "fruits") (by decide) (x := events) rfl (y := fruits) rfl rfl rfl
      (.head _) (.tail _ (.head _)) rfl⟩

/-- A scalar and an object type of one name, which no type of the merged schema could be. -/
theorem mergeable_eventsAndFruits : ∃ m s t d e,
    Mergeable.check eventsAndFruits [] withDate = .ok m ∧
    eventsAndFruits.get? "events" = some events ∧ eventsAndFruits.get? "fruits" = some fruits ∧
    events.supportedSchema = .ok s ∧ fruits.supportedSchema = .ok t ∧
    d ∈ s.types ∧ e ∈ t.types ∧ d.name = e.name ∧
    ¬ (d.name = s.queryType ∧ e.name = t.queryType ∨ d.isScalar = true ∧ e.isScalar = true) :=
  ⟨_, _, _, _, _, rfl, rfl, rfl, rfl, rfl, .head _, .tail _ (.head _), rfl, by decide⟩

end Sample

end SchemaReshape
