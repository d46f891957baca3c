import SchemaReshape.Proofs.Document.Applied
import SchemaReshape.Proofs.Query.Split

/-!
# Splittable queries

Which valid queries can be split, said of the parts of the document and without the walk over its
nodes or the scan of a scope: every directive is supported, and no scope has a property field behind
a vertex field or anything but fields, unless it is one inline fragment
(`Schema.checkSplittable_eq_ok_iff_isSplittable`).
-/

namespace SchemaReshape

open Check

namespace Selection

/-- A scope is one inline fragment, or it holds fields only and no property behind a vertex. -/
def HasSplitForm (scope : List Selection) : Prop :=
  (∃ condition? directives selections,
    scope = [.inlineFragment condition? directives selections]) ∨
  (∀ x ∈ scope, x.isField = true) ∧
    scope.Pairwise fun x y => x.isVertex = true → y.isProperty = false

theorem eq_partition_iff_pairwise {scope : List Selection} (h : ∀ x ∈ scope, x.isField = true) :
    scope = scope.filter isProperty ++ scope.filter isVertex ↔
      scope.Pairwise fun x y => x.isVertex = true → y.isProperty = false := by
  induction scope with
  | nil => simp
  | cons x scope ih =>
    obtain ⟨hx, hscope⟩ := List.forall_mem_cons.1 h
    have hvertex := isVertex_eq_not hx
    rw [List.pairwise_cons]
    cases hproperty : x.isProperty with
    | true =>
      rw [hproperty, Bool.not_true] at hvertex
      rw [List.filter_cons_of_pos hproperty, List.filter_cons_of_neg (by rw [hvertex]; exact nofun),
        List.cons_append, List.cons_inj_right, ih hscope, hvertex, and_iff_right fun _ _ => nofun]
    | false =>
      have hnot : ¬ x.isProperty = true := by rw [hproperty]; exact nofun
      rw [hproperty, Bool.not_false] at hvertex
      rw [List.filter_cons_of_neg hnot, List.filter_cons_of_pos hvertex,
        eq_partition_cons_iff hproperty hscope, hvertex]
      simp only [forall_const, Bool.not_eq_true]
      -- Behind the vertex there is no property at all, so none comes behind a further vertex.
      refine ⟨fun hnone => ⟨hnone, ?_⟩, fun hfirst => hfirst.1⟩
      exact List.pairwise_of_forall_mem_list fun _ _ y hy _ => hnone y hy

theorem checkScope_eq_ok_iff_hasSplitForm {scope : List Selection} :
    checkScope scope = .ok () ↔ HasSplitForm scope := by
  rw [checkScope_eq_ok_iff]
  exact or_congr_right (and_congr_right fun hfields => eq_partition_iff_pairwise hfields)

end Selection

/-- All that a split asks of the parts of a query. -/
structure Document.IsSplittable (query : Document) (settings : Settings) : Prop where
  directives : ∀ d ∈ query.appliedDirectives, d.name ∈ settings.splitDirectives
  scopes : ∀ scope ∈ query.scopes, Selection.HasSplitForm scope

theorem Node.checkSplittable_directive_iff {d : Directive} {settings : Settings} :
    (Node.directive d).checkSplittable settings = .ok () ↔ d.name ∈ settings.splitDirectives := by
  rw [checkSplittable, ite_throw_eq_ok_iff, pure_eq_ok_iff, and_iff_left rfl]
  rfl

theorem Document.forall_nodes_checkSplittable_iff {query : Document} {settings : Settings} :
    (∀ node ∈ query.nodes, node.checkSplittable settings = .ok ()) ↔
      query.IsSplittable settings := by
  constructor
  · intro h
    constructor
    · refine forall_appliedDirectives_iff.1 fun d hd => ?_
      exact Node.checkSplittable_directive_iff.1 (h _ hd)
    · refine forall_scopes_iff.1 fun scope hscope => ?_
      exact Selection.checkScope_eq_ok_iff_hasSplitForm.1 (h _ hscope)
  · rintro ⟨hdirectives, hscopes⟩ node hnode
    cases node with
    | directive d =>
      have hsupported := forall_appliedDirectives_iff.2 hdirectives d hnode
      exact Node.checkSplittable_directive_iff.2 hsupported
    | selectionSet scope =>
      have hformed := forall_scopes_iff.2 hscopes scope hnode
      exact Selection.checkScope_eq_ok_iff_hasSplitForm.2 hformed
    | _ => rfl

namespace Schema

variable {s : Schema} {query : Document} {settings : Settings}

/-- A valid query can be split exactly if its directives are supported and its scopes are formed for
it. -/
theorem checkSplittable_eq_ok_iff_isSplittable (h : s.checkQuery query = .ok ()) :
    s.checkSplittable query settings = .ok () ↔ query.IsSplittable settings := by
  rw [checkSplittable_eq_ok_iff, and_iff_right h, Document.forall_nodes_checkSplittable_iff]

end Schema

namespace Sample

theorem isSplittable_dogs : ∃ s, pets.supportedSchema = .ok s ∧ s.checkQuery dogs = .ok () ∧
    (s.checkSplittable dogs .standard = .ok () ↔ dogs.IsSplittable .standard) :=
  ⟨_, rfl, rfl, Schema.checkSplittable_eq_ok_iff_isSplittable
    (show Schema.checkQuery _ dogs = .ok () from rfl)⟩

end Sample

end SchemaReshape
