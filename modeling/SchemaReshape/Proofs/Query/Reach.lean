import Mathlib.Data.Set.Finite.Basic
import Mathlib.Logic.Relation
import Mathlib.Order.WellFounded
import SchemaReshape.Proofs.Query.Rules

/-!
# Reachable fragments

The check of a query asks that every fragment is spread, but not where: what a fragment spreads
counts even if the operation does not reach that fragment itself. So there can be fragments in a
valid query that the operation does not reach, but only together with a cycle of them, each spread
by the one before (`Schema.reaches_of_checkQuery`).
-/

namespace SchemaReshape

open Relation

def FragmentDefinition.IsSpreadIn (fragment : FragmentDefinition) (scope : List Selection) : Prop :=
  ∃ directives, .selection (.fragmentSpread fragment.name directives) ∈
    (Selection.scopeTree scope).nodes

namespace Document

/-- One fragment of the document spreads another. -/
structure Leads (query : Document) (fragment fragment' : FragmentDefinition) : Prop where
  source : fragment ∈ query.fragments
  target : fragment' ∈ query.fragments
  spread : fragment'.IsSpreadIn fragment.selections

/-- A chain of spreads that starts in the operation and passes through fragments ends at the
fragment. -/
inductive Reaches (query : Document) (operation : OperationDefinition) :
    FragmentDefinition → Prop where
  | spread {fragment : FragmentDefinition} (hfragment : fragment ∈ query.fragments)
      (hspread : fragment.IsSpreadIn operation.selections) : Reaches query operation fragment
  | through {fragment fragment' : FragmentDefinition} (h : Reaches query operation fragment)
      (hleads : query.Leads fragment fragment') : Reaches query operation fragment'

variable {query : Document} {operation : OperationDefinition} {fragment : FragmentDefinition}

theorem Reaches.exists_isSpreadIn (h : query.Reaches operation fragment) :
    ∃ fragment' ∈ query.fragments, fragment'.IsSpreadIn operation.selections := by
  induction h with
  | spread hfragment hspread => exact ⟨_, hfragment, hspread⟩
  | through _ _ ih => exact ih

theorem mem_spreads_iff_isSpreadIn (s : Schema) (hfragment : fragment ∈ query.fragments) :
    fragment.name ∈ (s.queryContext query operation).spreads operation ↔
      fragment.IsSpreadIn operation.selections ∨ ∃ fragment', query.Leads fragment' fragment := by
  rw [QueryContext.spreads, List.mem_append, List.mem_flatMap]
  simp only [s.mem_scopeSpreads_iff_mem_nodes]
  refine or_congr_right (exists_congr fun fragment' => ?_)
  constructor
  · rintro ⟨hfragment', hspread⟩
    exact ⟨hfragment', hfragment, hspread⟩
  · intro hleads
    exact ⟨hleads.source, hleads.spread⟩

theorem exists_leads_of_cycle {fragment' : FragmentDefinition}
    (hcycle : TransGen query.Leads fragment' fragment')
    (h : ReflTransGen query.Leads fragment' fragment) : ∃ other, query.Leads other fragment := by
  obtain ⟨other, -, hleads⟩ := TransGen.tail'_iff.1 (hcycle.trans_left h)
  exact ⟨other, hleads⟩

end Document

/-- If each of a list's elements that have a property comes after another one, each comes after a
cycle. -/
theorem exists_cycle_of_forall_exists {α : Type} {r : α → α → Prop} {p : α → Prop} {xs : List α}
    (h : ∀ x ∈ xs, p x → ∃ y ∈ xs, p y ∧ r y x) {x : α} (hx : x ∈ xs) (hp : p x) :
    ∃ y ∈ xs, p y ∧ TransGen r y y ∧ ReflTransGen r y x := by
  by_contra hnone
  let earlier : Set α := {y | y ∈ xs ∧ p y ∧ ReflTransGen r y x}
  let before (y z : earlier) : Prop := TransGen r y.1 z.1
  -- Without a cycle one of the elements that `x` comes after is the first.
  have : Finite earlier := xs.finite_toSet.subset fun y hy => hy.1
  have : IsTrans earlier before := ⟨fun _ _ _ => TransGen.trans⟩
  have : Std.Irrefl before :=
    ⟨fun y hcycle => hnone ⟨y.1, y.2.1, y.2.2.1, hcycle, y.2.2.2⟩⟩
  obtain ⟨first, -, hfirst⟩ := (Finite.wellFounded_of_trans_of_irrefl before).has_min Set.univ
    ⟨⟨x, hx, hp, .refl⟩, trivial⟩
  obtain ⟨hmem, hpfirst, hreached⟩ := first.2
  -- But that one comes after another one, too.
  obtain ⟨y, hy, hpy, hstep⟩ := h first.1 hmem hpfirst
  exact hfirst ⟨y, hy, hpy, .head hstep hreached⟩ trivial (.single hstep)

namespace Schema

variable {s : Schema} {query : Document} {operation : OperationDefinition}

section Used

variable (hused : ∀ fragment ∈ query.fragments,
  fragment.name ∈ (s.queryContext query operation).spreads operation)

include hused

theorem exists_leads_of_not_reaches {fragment : FragmentDefinition}
    (hfragment : fragment ∈ query.fragments) (hnot : ¬ query.Reaches operation fragment) :
    ∃ fragment' ∈ query.fragments, ¬ query.Reaches operation fragment' ∧
      query.Leads fragment' fragment := by
  rcases (Document.mem_spreads_iff_isSpreadIn s hfragment).1 (hused fragment hfragment) with
    hspread | ⟨fragment', hleads⟩
  · exact absurd (.spread hfragment hspread) hnot
  · exact ⟨fragment', hleads.source, fun h => hnot (h.through hleads), hleads⟩

theorem reaches_or_exists_cycle {fragment : FragmentDefinition}
    (hfragment : fragment ∈ query.fragments) :
    query.Reaches operation fragment ∨
      ∃ fragment' ∈ query.fragments, ¬ query.Reaches operation fragment' ∧
        TransGen query.Leads fragment' fragment' ∧
        ReflTransGen query.Leads fragment' fragment := by
  by_cases hreaches : query.Reaches operation fragment
  · exact .inl hreaches
  · refine .inr (exists_cycle_of_forall_exists ?_ hfragment hreaches)
    intro fragment hfragment hnot
    exact exists_leads_of_not_reaches hused hfragment hnot

end Used

theorem forall_mem_spreads_iff :
    (∀ fragment ∈ query.fragments,
      fragment.name ∈ (s.queryContext query operation).spreads operation) ↔
      ∀ fragment ∈ query.fragments, query.Reaches operation fragment ∨
        ∃ fragment', TransGen query.Leads fragment' fragment' ∧
          ReflTransGen query.Leads fragment' fragment := by
  constructor
  · intro hused fragment hfragment
    refine (reaches_or_exists_cycle hused hfragment).imp_right ?_
    rintro ⟨fragment', -, -, hcycle, hafter⟩
    exact ⟨fragment', hcycle, hafter⟩
  · intro h fragment hfragment
    refine (Document.mem_spreads_iff_isSpreadIn s hfragment).2 ?_
    rcases h fragment hfragment with hreaches | ⟨fragment', hcycle, hafter⟩
    · cases hreaches with
      | spread _ hspread => exact .inl hspread
      | through _ hleads => exact .inr ⟨_, hleads⟩
    · exact .inr (Document.exists_leads_of_cycle hcycle hafter)

/-- In a valid query every fragment is reached from the operation, or from a cycle of fragments that
is not. So all are reached if those are that spread each other in a cycle. -/
theorem reaches_of_checkQuery (h : s.checkQuery query = .ok ()) :
    ∃ operation, query.operations = [operation] ∧
      (∀ fragment ∈ query.fragments, query.Reaches operation fragment ∨
        ∃ fragment' ∈ query.fragments, ¬ query.Reaches operation fragment' ∧
          TransGen query.Leads fragment' fragment' ∧
          ReflTransGen query.Leads fragment' fragment) ∧
      ((∀ fragment ∈ query.fragments, query.Reaches operation fragment) ↔
        ∀ fragment ∈ query.fragments, TransGen query.Leads fragment fragment →
          query.Reaches operation fragment) := by
  obtain ⟨operation, -, hoperations, -, -, hused⟩ := exists_operation_of_checkQuery h
  refine ⟨operation, hoperations, fun fragment hfragment => reaches_or_exists_cycle hused hfragment,
    fun hall fragment hfragment _ => hall fragment hfragment, ?_⟩
  intro hcyclic fragment hfragment
  rcases reaches_or_exists_cycle hused hfragment with hreaches | ⟨other, hother, hnot, hcycle, -⟩
  · exact hreaches
  · exact absurd (hcyclic other hother hcycle) hnot

end Schema

namespace Sample

theorem reaches_namedPets : ∃ s, pets.supportedSchema = .ok s ∧ s.checkQuery namedPets = .ok () ∧
    ∃ operation, namedPets.operations = [operation] ∧
      (∀ fragment ∈ namedPets.fragments, namedPets.Reaches operation fragment ∨
        ∃ fragment' ∈ namedPets.fragments, ¬ namedPets.Reaches operation fragment' ∧
          TransGen namedPets.Leads fragment' fragment' ∧
          ReflTransGen namedPets.Leads fragment' fragment) ∧
      ((∀ fragment ∈ namedPets.fragments, namedPets.Reaches operation fragment) ↔
        ∀ fragment ∈ namedPets.fragments, TransGen namedPets.Leads fragment fragment →
          namedPets.Reaches operation fragment) := by
  have haccepted : ∃ s, pets.supportedSchema = .ok s ∧ s.checkQuery namedPets = .ok () :=
    ⟨_, rfl, rfl⟩
  obtain ⟨s, hs, hquery⟩ := haccepted
  exact ⟨s, hs, hquery, Schema.reaches_of_checkQuery hquery⟩

/-- A fragment that is spread nowhere but in itself. -/
def stray : FragmentDefinition :=
  ⟨"stray", "Person", [], [.field ⟨none, "name", [], []⟩ [], .fragmentSpread "stray" []]⟩

def withStray : Document :=
  ⟨[.operation ⟨.query, none, [], [], [.field ⟨none, "Person", [], []⟩
    [.field ⟨none, "name", [], []⟩ []]]⟩, .fragment stray]⟩

/-- The check passes a fragment that the operation does not reach. -/
theorem checkQuery_passes_stray : ∃ s, pets.supportedSchema = .ok s ∧
    (withStray.fragments.map (·.name)).Nodup ∧ s.checkQuery withStray = .ok () ∧
    ∃ operation, withStray.operations = [operation] ∧
      ∃ fragment ∈ withStray.fragments, ¬ withStray.Reaches operation fragment := by
  refine ⟨_, rfl, by decide, rfl, _, rfl, stray, List.mem_singleton_self _, fun hreaches => ?_⟩
  obtain ⟨fragment, -, hspread⟩ := hreaches.exists_isSpreadIn
  obtain ⟨directives, hx⟩ := hspread
  -- the operation selects nothing but fields
  have hfields : ∀ node ∈ (Selection.scopeTree [.field ⟨none, "Person", [], []⟩
      [.field ⟨none, "name", [], []⟩ []]]).nodes, node.kind ≠ .fragmentSpread := by decide
  exact hfields _ hx rfl

end Sample

end SchemaReshape
