import SchemaReshape.Proofs.Check
import SchemaReshape.Query.Scope

/-!
# Scopes that can be split

The check of a scope looks for what is wrong with it. `Selection.IsSplitScope` says what is left:
one inline fragment alone, or fields that are their own partition into property and vertex fields
(`Selection.checkScope_eq_ok_iff`).
-/

namespace SchemaReshape

open Check

namespace Selection

/-- A scope is one inline fragment, or it holds fields in the order of their partition. -/
def IsSplitScope (scope : List Selection) : Prop :=
  (∃ condition? directives selections,
    scope = [.inlineFragment condition? directives selections]) ∨
  (∀ x ∈ scope, x.isField = true) ∧ scope = scope.filter isProperty ++ scope.filter isVertex

theorem isVertex_eq_not {x : Selection} (h : x.isField = true) : x.isVertex = !x.isProperty := by
  unfold isVertex
  rw [h, Bool.true_and]

theorem lateProperty?_eq_none_iff_find {scope : List Selection} :
    lateProperty? scope = none ↔
      (scope.dropWhile fun x => !x.isVertex).find? isProperty = none := by
  unfold lateProperty?
  split
  · rename_i head selections hfind
    simp [hfind]
  · rename_i hfind
    refine iff_of_true rfl ?_
    cases h : (scope.dropWhile fun x => !x.isVertex).find? isProperty with
    | none => rfl
    | some x =>
      have hproperty := List.find?_some h
      cases x with
      | field head selections => exact absurd h (hfind head selections)
      | fragmentSpread | inlineFragment => exact nomatch hproperty

theorem eq_partition_cons_iff {x : Selection} {scope : List Selection}
    (hx : x.isProperty = false) (h : ∀ y ∈ scope, y.isField = true) :
    x :: scope = scope.filter isProperty ++ x :: scope.filter isVertex ↔
      ∀ y ∈ scope, ¬ y.isProperty = true := by
  constructor
  · intro heq
    -- a property among the later fields would be the first field of the partition
    have hnone : scope.filter isProperty = [] := by
      cases hproperties : scope.filter isProperty with
      | nil => rfl
      | cons y ys =>
        rw [hproperties, List.cons_append] at heq
        obtain rfl : x = y := (List.cons.inj heq).1
        have hmem : x ∈ scope.filter isProperty := by simp [hproperties]
        have hproperty : x.isProperty = true := (List.mem_filter.1 hmem).2
        rw [hx] at hproperty
        exact nomatch hproperty
    exact List.filter_eq_nil_iff.1 hnone
  · intro hnone
    have hvertices : scope.filter isVertex = scope := by
      refine List.filter_eq_self.2 fun y hy => ?_
      rw [isVertex_eq_not (h y hy), Bool.not_eq_true']
      exact Bool.eq_false_iff.2 (hnone y hy)
    rw [List.filter_eq_nil_iff.2 hnone, hvertices, List.nil_append]

/-- Among fields no property comes late exactly if all of them come first. -/
theorem lateProperty?_eq_none_iff {scope : List Selection} (h : ∀ x ∈ scope, x.isField = true) :
    lateProperty? scope = none ↔ scope = scope.filter isProperty ++ scope.filter isVertex := by
  rw [lateProperty?_eq_none_iff_find]
  induction scope with
  | nil => simp
  | cons x scope ih =>
    obtain ⟨hx, hscope⟩ := List.forall_mem_cons.1 h
    have hvertex := isVertex_eq_not hx
    cases hproperty : x.isProperty with
    | true =>
      rw [hproperty, Bool.not_true] at hvertex
      rw [List.dropWhile_cons_of_pos (by rw [hvertex]; rfl), ih hscope,
        List.filter_cons_of_pos hproperty, List.filter_cons_of_neg (by rw [hvertex]; exact nofun),
        List.cons_append, List.cons_inj_right]
    | false =>
      have hnot : ¬ x.isProperty = true := by rw [hproperty]; exact nofun
      rw [hproperty, Bool.not_false] at hvertex
      rw [List.dropWhile_cons_of_neg (by rw [hvertex]; exact nofun), List.find?_eq_none,
        List.forall_mem_cons, and_iff_right hnot, List.filter_cons_of_neg hnot,
        List.filter_cons_of_pos hvertex, eq_partition_cons_iff hproperty hscope]

theorem findSome?_spreadName?_eq_none_iff {scope : List Selection} :
    scope.findSome? spreadName? = none ↔
      ∀ x ∈ scope, ∀ name directives, x ≠ .fragmentSpread name directives := by
  rw [List.findSome?_eq_none_iff]
  refine forall₂_congr fun x _ => ?_
  cases x <;> simp [spreadName?]

theorem inlineFragment?_eq_some_iff {x : Selection} {fragment : InlineFragment} :
    x.inlineFragment? = some fragment ↔
      x = .inlineFragment fragment.condition? fragment.directives fragment.selections := by
  obtain ⟨condition?, directives, selections⟩ := fragment
  cases x <;> simp [inlineFragment?]

theorem soleInlineFragment?_eq_none_iff {scope : List Selection} :
    soleInlineFragment? scope = .ok none ↔ ∀ x ∈ scope, x.inlineFragment? = none := by
  unfold soleInlineFragment?
  rw [← List.filterMap_eq_nil_iff]
  cases scope.filterMap inlineFragment? with
  | nil => exact iff_of_true rfl rfl
  | cons fragment rest => cases rest <;> simp

theorem soleInlineFragment?_eq_some_iff {scope : List Selection} {fragment : InlineFragment} :
    soleInlineFragment? scope = .ok (some fragment) ↔
      scope = [.inlineFragment fragment.condition? fragment.directives fragment.selections] := by
  constructor
  · intro h
    unfold soleInlineFragment? at h
    cases hfragments : scope.filterMap inlineFragment? with
    | nil => simp [hfragments] at h
    | cons fragment' rest =>
      cases rest with
      | nil =>
        obtain ⟨hlength, rfl⟩ : scope.length = 1 ∧ fragment' = fragment := by
          simpa [hfragments] using h
        obtain ⟨x, rfl⟩ := List.length_eq_one_iff.1 hlength
        obtain ⟨y, hy, hsome⟩ := List.mem_filterMap.1 (hfragments ▸ List.mem_singleton_self _)
        obtain rfl := List.mem_singleton.1 hy
        rw [inlineFragment?_eq_some_iff.1 hsome]
      | cons => simp [hfragments] at h
  · rintro rfl
    rfl

theorem checkScope_eq_ok_iff_steps {scope : List Selection} :
    checkScope scope = .ok () ↔ scope.findSome? spreadName? = none ∧
      ∃ fragment?, soleInlineFragment? scope = .ok fragment? ∧
        (fragment? = none → lateProperty? scope = none) := by
  unfold checkScope
  cases scope.findSome? spreadName? with
  | some name => simp
  | none =>
    cases soleInlineFragment? scope with
    | error fault => simp [bind, Except.bind]
    | ok fragment? =>
      cases fragment? with
      | some fragment => simp [bind, Except.bind]
      | none => cases lateProperty? scope <;> simp [bind, Except.bind]

theorem checkScope_eq_ok_iff {scope : List Selection} :
    checkScope scope = .ok () ↔ IsSplitScope scope := by
  rw [checkScope_eq_ok_iff_steps, findSome?_spreadName?_eq_none_iff]
  constructor
  · rintro ⟨hspreads, _ | fragment, hsole, hlate⟩
    · have hfields : ∀ x ∈ scope, x.isField = true := by
        intro x hx
        have hinline := soleInlineFragment?_eq_none_iff.1 hsole x hx
        cases x with
        | field => rfl
        | fragmentSpread name directives => exact absurd rfl (hspreads _ hx name directives)
        | inlineFragment => exact nomatch hinline
      exact .inr ⟨hfields, (lateProperty?_eq_none_iff hfields).1 (hlate rfl)⟩
    · exact .inl ⟨_, _, _, soleInlineFragment?_eq_some_iff.1 hsole⟩
  · rintro (⟨condition?, directives, selections, rfl⟩ | ⟨hfields, hpartition⟩)
    · refine ⟨by simp, some ⟨condition?, directives, selections⟩, rfl, nofun⟩
    · have hspreads : ∀ x ∈ scope, ∀ name directives, x ≠ .fragmentSpread name directives := by
        rintro _ hx name directives rfl
        exact nomatch hfields _ hx
      have hnone : soleInlineFragment? scope = .ok none := by
        rw [soleInlineFragment?_eq_none_iff]
        intro x hx
        have hfield := hfields x hx
        cases x <;> first | rfl | exact nomatch hfield
      have hlate := (lateProperty?_eq_none_iff hfields).2 hpartition
      exact ⟨hspreads, none, hnone, fun _ => hlate⟩

end Selection

end SchemaReshape
