import SchemaReshape.Proofs.Parsed.Converted
import SchemaReshape.Proofs.Sorted.Entries

/-!
# Parsed documents in the order of their names

The parser keeps operations and fragments in maps, which are gone through in any order. Their names
are distinct, so that there is only one way to list them in the order of their names, and what the
document becomes is that listing (`Executable.toDocument_eq_iff_becomes`).
-/

namespace SchemaReshape.Parsed

section Order

variable {κ α : Type} [Ord κ]

def Ascending (entries : List (κ × α)) : Prop :=
  entries.Pairwise fun e e' => compare e.1 e'.1 = .lt

variable {entries entries' : List (κ × α)}

theorem inOrder_perm (entries : List (κ × α)) : (inOrder entries).Perm entries :=
  List.mergeSort_perm entries _

variable [Std.TransOrd κ] [Std.LawfulEqOrd κ]

theorem ascending_inOrder (h : (entries.map (·.1)).Nodup) : Ascending (inOrder entries) := by
  have htotal : ∀ k k' : κ, ((compare k k').isLE || (compare k' k).isLE) = true := by
    intro k k'
    have hswap : compare k' k = (compare k k').swap := Std.OrientedCmp.eq_swap
    rw [hswap]
    cases compare k k' <;> rfl
  have hsorted : (inOrder entries).Pairwise fun e e' => (compare e.1 e'.1).isLE = true :=
    List.pairwise_mergeSort (fun _ _ _ => Std.TransCmp.isLE_trans) (fun e e' => htotal e.1 e'.1) _
  have hkeys : ((inOrder entries).map (·.1)).Nodup :=
    ((inOrder_perm entries).map (·.1)).nodup_iff.2 h
  have hdistinct : (inOrder entries).Pairwise fun e e' => e.1 ≠ e'.1 := List.pairwise_map.1 hkeys
  refine hsorted.imp₂ (fun e e' hle hne => ?_) hdistinct
  exact (Ordering.isLE_iff_eq_lt_or_eq_eq.1 hle).resolve_right fun heq =>
    hne (Std.compare_eq_iff_eq.1 heq)

omit [Std.LawfulEqOrd κ] in
theorem Ascending.nodup (h : Ascending entries) : entries.Nodup :=
  h.imp fun {e e'} hlt heq => by
    rw [heq, Std.ReflOrd.compare_self] at hlt
    cases hlt

omit [Std.LawfulEqOrd κ] in
theorem Ascending.eq_of_mem_iff (h : Ascending entries) (h' : Ascending entries')
    (hmem : ∀ e, e ∈ entries ↔ e ∈ entries') : entries = entries' :=
  eq_of_perm_of_ascending h h' ((List.perm_ext_iff_of_nodup h.nodup h'.nodup).2 hmem)

end Order

/-- The operations and what they are kept under. -/
inductive Operations.Has : Operations → Option Name → Operation → Prop
  | single (o : Operation) : Has (.single o) none o
  | multiple {operations : Catalogue Operation} {name : Name} {o : Operation}
      (mem : (name, o) ∈ operations.toList) : Has (.multiple operations) (some name) o

namespace Operations

variable {operations : Operations}

theorem mem_entries_iff {name? : Option Name} {o : Operation} :
    (name?, o) ∈ operations.entries ↔ operations.Has name? o := by
  cases operations with
  | single operation =>
    rw [entries, List.mem_singleton, Prod.mk.injEq]
    constructor
    · rintro ⟨rfl, rfl⟩
      exact .single o
    · rintro ⟨⟩
      exact ⟨rfl, rfl⟩
  | multiple operations =>
    rw [entries, List.mem_map]
    constructor
    · rintro ⟨e, he, heq⟩
      obtain ⟨rfl, rfl⟩ := Prod.mk.inj heq
      exact .multiple he
    · rintro ⟨⟩
      rename_i name hmem
      exact ⟨(name, o), hmem, rfl⟩

theorem nodup_entries : (operations.entries.map (·.1)).Nodup := by
  cases operations with
  | single => exact List.nodup_singleton _
  | multiple operations =>
    have hkeys : (multiple operations).entries.map (·.1) =
        (operations.toList.map (·.1)).map some := by
      rw [entries, List.map_map, List.map_map]
      rfl
    rw [hkeys]
    exact operations.distinct.map fun _ _ => Option.some.inj

end Operations

namespace Executable

/-- All operations and all fragments, each once and in the order of the names. An operation without
a name comes before those with one. -/
structure Lists (e : Executable) (os : List (Option Name × Operation))
    (fs : List (Name × Fragment)) : Prop where
  operations : ∀ name? o, (name?, o) ∈ os ↔ e.operations.Has name? o
  operations_ascending : Ascending os
  fragments : ∀ name f, (name, f) ∈ fs ↔ (name, f) ∈ e.fragments.toList
  fragments_ascending : Ascending fs

/-- The definitions of the document are what the operations in their order become and then what the
fragments do. -/
def Becomes (e : Executable) (d : Document) : Prop :=
  ∃ os fs, e.Lists os fs ∧ ∃ os' fs', List.Forall₂ BecomesOperation os os' ∧
    List.Forall₂ BecomesFragment fs fs' ∧
    d.definitions = os'.map .operation ++ fs'.map .fragment

/-- The same operations and fragments under the same names, gone through in any order. -/
structure IsReordering (e' e : Executable) : Prop where
  operations : ∀ name? o, e'.operations.Has name? o ↔ e.operations.Has name? o
  fragments : ∀ name f, (name, f) ∈ e'.fragments.toList ↔ (name, f) ∈ e.fragments.toList

variable {e : Executable} {os os' : List (Option Name × Operation)}
  {fs fs' : List (Name × Fragment)}

theorem lists_inOrder (e : Executable) :
    e.Lists (inOrder e.operations.entries) (inOrder e.fragments.toList) where
  operations _ _ := (inOrder_perm _).mem_iff.trans Operations.mem_entries_iff
  operations_ascending := ascending_inOrder Operations.nodup_entries
  fragments _ _ := (inOrder_perm _).mem_iff
  fragments_ascending := ascending_inOrder e.fragments.distinct

/-- Distinct names can be listed in order in one way only. -/
theorem Lists.eq (h : e.Lists os fs) (h' : e.Lists os' fs') : os = os' ∧ fs = fs' :=
  ⟨h.operations_ascending.eq_of_mem_iff h'.operations_ascending fun o =>
      (h.operations o.1 o.2).trans (h'.operations o.1 o.2).symm,
    h.fragments_ascending.eq_of_mem_iff h'.fragments_ascending fun f =>
      (h.fragments f.1 f.2).trans (h'.fragments f.1 f.2).symm⟩

theorem becomes_iff {d : Document} : e.Becomes d ↔ e.toDocument = d := by
  have hdefinitions : e.toDocument.definitions =
      ((inOrder e.operations.entries).map fun o => o.2.toDefinition o.1).map .operation ++
        ((inOrder e.fragments.toList).map fun f => f.2.toDefinition f.1).map .fragment := by
    rw [toDocument, List.map_map, List.map_map]
    rfl
  constructor
  · rintro ⟨os, fs, hlists, os', fs', hos, hfs, hd⟩
    obtain ⟨rfl, rfl⟩ := hlists.eq e.lists_inOrder
    rw [← (forall₂_iff_map_eq becomesOperation_iff _ _).1 hos,
      ← (forall₂_iff_map_eq becomesFragment_iff _ _).1 hfs, ← hdefinitions] at hd
    exact congrArg Document.mk hd.symm
  · rintro rfl
    exact ⟨_, _, e.lists_inOrder, _, _, (forall₂_iff_map_eq becomesOperation_iff _ _).2 rfl,
      (forall₂_iff_map_eq becomesFragment_iff _ _).2 rfl, hdefinitions⟩

theorem IsReordering.lists {e' : Executable} (h : e'.IsReordering e) (hlists : e'.Lists os fs) :
    e.Lists os fs where
  operations name? o := (hlists.operations name? o).trans (h.operations name? o)
  operations_ascending := hlists.operations_ascending
  fragments name f := (hlists.fragments name f).trans (h.fragments name f)
  fragments_ascending := hlists.fragments_ascending

/-- A parsed document becomes the listing of its operations and then its fragments in the order of
their names, each converted once with all its parts in their places; this is one document, whatever
order the maps are gone through in. -/
theorem toDocument_eq_iff_becomes (e : Executable) :
    (∀ d, e.toDocument = d ↔ e.Becomes d) ∧
      ∀ e' : Executable, e'.IsReordering e → e'.toDocument = e.toDocument := by
  refine ⟨fun d => becomes_iff.symm, fun e' h => ?_⟩
  obtain ⟨os, fs, hlists, hrest⟩ := becomes_iff.2 (rfl : e'.toDocument = e'.toDocument)
  exact (becomes_iff.1 ⟨os, fs, h.lists hlists, hrest⟩).symm

end Executable

end SchemaReshape.Parsed

namespace SchemaReshape.Sample

open Parsed

def namePets : Operation where
  kind := .query
  variableDefinitions := [⟨"all", .named "Boolean" false, [], some (.boolean true)⟩]
  directives := []
  selections := [
    .field (some "d") "dog" [("old", .var "all" rfl), ("near", .list [.number ⟨false, "1"⟩, .null])]
      [] [.fragmentSpread "Named" [], .fragmentSpread "Aged" []],
    .field none "cat" [] [] []]

def feedPets : Operation := ⟨.mutation, [], [], [.field none "feed" [] [] []]⟩

def named : Fragment := ⟨"Dog", [], [.field none "name" [] [] []]⟩

def aged : Fragment :=
  ⟨"Dog", [⟨"output", [("out_name", .string "a")]⟩], [.field none "age" [] [] []]⟩

def petQueries : Parsed.Executable where
  operations := .multiple ⟨[("Pets", namePets), ("Feed", feedPets)], by decide⟩
  fragments := ⟨[("Named", named), ("Aged", aged)], by decide⟩

def petQueriesInOrder : Parsed.Executable where
  operations := .multiple ⟨[("Feed", feedPets), ("Pets", namePets)], by decide⟩
  fragments := ⟨[("Aged", aged), ("Named", named)], by decide⟩

def petDocument : Document where
  definitions := [
    .operation ⟨.mutation, some "Feed", [], [], [.field ⟨none, "feed", [], []⟩ []]⟩,
    .operation ⟨.query, some "Pets",
      [⟨"all", .nonNull (.named "Boolean"), some (.boolean true), []⟩], [],
      [.field ⟨some "d", "dog", [⟨"old", .var "all"⟩, ⟨"near", .list [.int "1", .null]⟩], []⟩
        [.fragmentSpread "Named" [], .fragmentSpread "Aged" []],
        .field ⟨none, "cat", [], []⟩ []]⟩,
    .fragment ⟨"Aged", "Dog", [⟨"output", [⟨"out_name", .string "a"⟩]⟩],
      [.field ⟨none, "age", [], []⟩ []]⟩,
    .fragment ⟨"Named", "Dog", [], [.field ⟨none, "name", [], []⟩ []]⟩]

theorem toDocument_petQueries :
    petQueries.toDocument = petDocument ∧ petQueriesInOrder.toDocument = petQueries.toDocument := by
  obtain ⟨hbecomes, hreordering⟩ := Executable.toDocument_eq_iff_becomes petQueries
  have hoperations : ∀ name? o, petQueriesInOrder.operations.Has name? o ↔
      petQueries.operations.Has name? o := by
    intro name? o
    rw [← Operations.mem_entries_iff, ← Operations.mem_entries_iff]
    exact (List.Perm.swap _ _ _).mem_iff
  have hfragments : ∀ name f, (name, f) ∈ petQueriesInOrder.fragments.toList ↔
      (name, f) ∈ petQueries.fragments.toList := fun _ _ => (List.Perm.swap _ _ _).mem_iff
  have hlists : petQueries.Lists petQueriesInOrder.operations.entries
      petQueriesInOrder.fragments.toList :=
    { operations := fun name? o => Operations.mem_entries_iff.trans (hoperations name? o)
      operations_ascending := by rw [Ascending]; decide +kernel
      fragments := hfragments
      fragments_ascending := by rw [Ascending]; decide +kernel }
  refine ⟨(hbecomes petDocument).2 ⟨_, _, hlists, petDocument.operations, petDocument.fragments,
    ?_, ?_, rfl⟩, hreordering _ ⟨hoperations, hfragments⟩⟩
  · exact (forall₂_iff_map_eq becomesOperation_iff _ _).2 rfl
  · exact (forall₂_iff_map_eq becomesFragment_iff _ _).2 rfl

end SchemaReshape.Sample
