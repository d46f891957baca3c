import Mathlib.Data.List.Nodup
import Mathlib.Data.List.Lex
import SchemaReshape.Proofs.Document.Shown

/-!
# The law of a traversal

The events of a document, each with the place of its node, are a traversal of the document
(`SyntaxTree.IsGrown.isTraversal`): every node is entered once, in document order, and left once,
and what happens at its parts happens in between. A visitor that keeps a state and may fail is
called along just these events, up to the first that fails (`Document.visit_along_events`).
-/

namespace SchemaReshape

/-- An event and the place of its node. -/
abbrev Step := List Nat × Event

namespace Step

def entered? : Step → Option (List Nat)
  | (place, .enter _) => some place
  | (_, .leave _) => none

/-- The same step, as seen from the node that has this one for its part of the number. -/
def within (i : Nat) (s : Step) : Step := (i :: s.1, s.2)

theorem entered?_within (i : Nat) (s : Step) :
    (s.within i).entered? = s.entered?.map (i :: ·) := by
  obtain ⟨place, event⟩ := s
  cases event <;> rfl

theorem within_injective (i : Nat) : Function.Injective (within i) := by
  intro s s' h
  rw [within, within, Prod.mk.injEq, List.cons.injEq] at h
  exact Prod.ext h.1.2 h.2

end Step

/-- Steps that enter and leave each node at and within the root once. -/
structure Node.IsTraversal (root : Node) (steps : List Step) : Prop where
  nodup : steps.Nodup
  enter_mem_iff : ∀ place node, (place, .enter node) ∈ steps ↔ root.at? place = some node
  leave_mem_iff : ∀ place node, (place, .leave node) ∈ steps ↔ root.at? place = some node
  /-- Nodes are entered in document order: a node before its parts, and parts from first to last. -/
  in_order : (steps.filterMap Step.entered?).Pairwise (· < ·)
  /-- A node is left after it is entered, -/
  enter_leave : ∀ place node, root.at? place = some node →
    [(place, .enter node), (place, .leave node)].Sublist steps
  /-- and its parts are entered and left in between. -/
  nested : ∀ place node i part, root.at? place = some node → node.parts[i]? = some part →
    [(place, .enter node), (place ++ [i], .enter part), (place ++ [i], .leave part),
      (place, .leave node)].Sublist steps

namespace SyntaxTree

mutual

def steps : SyntaxTree → List Step
  | node root children => ([], .enter root) :: forestSteps 0 children ++ [([], .leave root)]

def forestSteps (i : Nat) : List SyntaxTree → List Step
  | [] => []
  | t :: ts => t.steps.map (Step.within i) ++ forestSteps (i + 1) ts

end

mutual

theorem map_snd_steps : ∀ t : SyntaxTree, t.steps.map (·.2) = t.events
  | node root children => by
    simp [steps, events, map_snd_forestSteps 0 children]

theorem map_snd_forestSteps : ∀ (i : Nat) (ts : List SyntaxTree),
    (forestSteps i ts).map (·.2) = forestEvents ts
  | _, [] => rfl
  | i, t :: ts => by
    have hwithin : ((·.2) ∘ Step.within i : Step → Event) = (·.2) := rfl
    rw [forestSteps, forestEvents, List.map_append, List.map_map, hwithin, map_snd_steps t,
      map_snd_forestSteps (i + 1) ts]

end

theorem forestSteps_eq_flatMap (i : Nat) (ts : List SyntaxTree) :
    forestSteps i ts = (ts.zipIdx i).flatMap fun t => t.1.steps.map (Step.within t.2) := by
  induction ts generalizing i with
  | nil => rfl
  | cons t ts ih => rw [forestSteps, ih, List.zipIdx_cons, List.flatMap_cons]

theorem mem_forestSteps {ts : List SyntaxTree} {s : Step} :
    s ∈ forestSteps 0 ts ↔
      ∃ (i : Nat) (t : SyntaxTree), ts[i]? = some t ∧ ∃ s' ∈ t.steps, s'.within i = s := by
  simp only [forestSteps_eq_flatMap, List.mem_flatMap, Prod.exists, List.mem_zipIdx_iff_getElem?,
    List.mem_map]
  exact exists_comm

theorem sublist_forestSteps {ts : List SyntaxTree} {i : Nat} {t : SyntaxTree}
    (h : ts[i]? = some t) : (t.steps.map (Step.within i)).Sublist (forestSteps 0 ts) := by
  rw [forestSteps_eq_flatMap, List.flatMap_def]
  exact List.sublist_flatten_of_mem
    (List.mem_map.2 ⟨(t, i), List.mem_zipIdx_iff_getElem?.2 h, rfl⟩)

theorem pairwise_forestSteps {R : Step → Step → Prop} {ts : List SyntaxTree}
    (hwithin : ∀ t ∈ ts, ∀ i, (t.steps.map (Step.within i)).Pairwise R)
    (hacross : ∀ i j, i < j → ∀ s s' : Step, R (s.within i) (s'.within j)) :
    (forestSteps 0 ts).Pairwise R := by
  have hnumbers : ts.zipIdx.Pairwise fun t t' => t.2 < t'.2 :=
    List.pairwise_map.1 (List.zipIdx_map_snd 0 ts ▸ List.pairwise_lt_range')
  rw [forestSteps_eq_flatMap, List.pairwise_flatMap]
  refine ⟨fun t ht => hwithin t.1 (List.fst_mem_of_mem_zipIdx ht) t.2, hnumbers.imp ?_⟩
  intro t t' hlt s hs s' hs'
  obtain ⟨s, -, rfl⟩ := List.mem_map.1 hs
  obtain ⟨s', -, rfl⟩ := List.mem_map.1 hs'
  exact hacross _ _ hlt s s'

namespace IsGrown

variable {t : SyntaxTree}

/-- What holds between steps wherever they are seen from, and between the steps at a node and at its
parts, holds between any step and a later one. -/
theorem pairwise_steps {R : Step → Step → Prop}
    (hwithin : ∀ i s s', R s s' → R (Step.within i s) (Step.within i s'))
    (hacross : ∀ i j, i < j → ∀ s s' : Step, R (s.within i) (s'.within j))
    (henter : ∀ root i, ∀ s : Step, R ([], .enter root) (s.within i))
    (hleave : ∀ root i, ∀ s : Step, R (s.within i) ([], .leave root))
    (hroot : ∀ root, R ([], .enter root) ([], .leave root)) (h : t.IsGrown) :
    t.steps.Pairwise R := by
  induction h with
  | @node root children hparts hchildren ih =>
    have hforest : (forestSteps 0 children).Pairwise R :=
      pairwise_forestSteps (fun t ht i => (ih t ht).map _ (hwithin i)) hacross
    have hbelow : ∀ s ∈ forestSteps 0 children, ∃ i, ∃ s' : Step, s'.within i = s := by
      intro s hs
      obtain ⟨i, t, -, s', -, rfl⟩ := mem_forestSteps.1 hs
      exact ⟨i, s', rfl⟩
    rw [steps, List.cons_append, List.pairwise_cons, List.pairwise_append]
    refine ⟨fun s hs => ?_, hforest, List.pairwise_singleton .., fun s hs s' hs' => ?_⟩
    · rcases List.mem_append.1 hs with hs | hs
      · obtain ⟨i, s, rfl⟩ := hbelow s hs
        exact henter root i s
      · rw [List.mem_singleton.1 hs]
        exact hroot root
    · obtain ⟨i, s, rfl⟩ := hbelow s hs
      rw [List.mem_singleton.1 hs']
      exact hleave root i s

theorem nodup_steps (h : t.IsGrown) : t.steps.Nodup := by
  refine h.pairwise_steps (fun i s s' hne => (Step.within_injective i).ne hne) ?_ ?_ ?_ ?_
  · intro i j hlt s s' heq
    exact hlt.ne (List.cons.inj (Prod.mk.inj heq).1).1
  · rintro _ _ _ ⟨⟩
  · rintro _ _ _ ⟨⟩
  · rintro _ ⟨⟩

/-- Nodes are entered in the order of their places. -/
theorem pairwise_entered (h : t.IsGrown) :
    (t.steps.filterMap Step.entered?).Pairwise (· < ·) := by
  rw [List.pairwise_filterMap]
  refine h.pairwise_steps ?_ ?_ ?_ ?_ ?_
  · intro i s s' hlt
    simp only [Step.entered?_within, Option.map_eq_some_iff]
    rintro _ ⟨p, hp, rfl⟩ _ ⟨q, hq, rfl⟩
    exact List.cons_lt_cons_self.2 (hlt p hp q hq)
  · intro i j hlt s s'
    simp only [Step.entered?_within, Option.map_eq_some_iff]
    rintro _ ⟨p, hp, rfl⟩ _ ⟨q, hq, rfl⟩
    exact List.cons_lt_cons_iff.2 (.inl hlt)
  · intro root i s
    simp only [Step.entered?_within, Option.map_eq_some_iff]
    rintro _ ⟨⟩ _ ⟨q, hq, rfl⟩
    exact List.nil_lt_cons ..
  · rintro _ _ _ _ _ _ ⟨⟩
  · rintro _ _ _ _ ⟨⟩

theorem at?_cons {root : Node} {children : List SyntaxTree}
    (hparts : children.map SyntaxTree.root = root.parts) (i : Nat) (place : List Nat) :
    root.at? (i :: place) = children[i]?.bind (·.root.at? place) := by
  rw [Node.at?, ← hparts, List.getElem?_map, Option.bind_map]
  rfl

/-- The steps are those of entering and of leaving the nodes at their places. -/
theorem mem_steps_iff (h : t.IsGrown) : ∀ place event, (place, event) ∈ t.steps ↔
    ∃ node, t.root.at? place = some node ∧ (event = .enter node ∨ event = .leave node) := by
  induction h with
  | @node root children hparts hchildren ih =>
    intro place event
    rw [steps, List.mem_append, List.mem_cons, mem_forestSteps, List.mem_singleton,
      SyntaxTree.root]
    cases place with
    | nil =>
      simp [Step.within, Node.at?, or_comm]
    | cons i place =>
      have hbelow : (∃ (j : Nat) (t : SyntaxTree), children[j]? = some t ∧
          ∃ s ∈ t.steps, s.within j = (i :: place, event)) ↔
          ∃ t, children[i]? = some t ∧ (place, event) ∈ t.steps := by
        constructor
        · rintro ⟨_, t, ht, ⟨_, _⟩, hs, ⟨⟩⟩
          exact ⟨t, ht, hs⟩
        · rintro ⟨t, ht, hs⟩
          exact ⟨i, t, ht, _, hs, rfl⟩
      simp only [hbelow, Prod.mk.injEq, reduceCtorEq, false_and, false_or, or_false,
        at?_cons hparts, Option.bind_eq_some_iff]
      constructor
      · rintro ⟨t, ht, hs⟩
        obtain ⟨node, hnode, hevent⟩ := (ih t (List.mem_of_getElem? ht) place event).1 hs
        exact ⟨node, ⟨t, ht, hnode⟩, hevent⟩
      · rintro ⟨node, ⟨t, ht, hnode⟩, hevent⟩
        exact ⟨t, ht, (ih t (List.mem_of_getElem? ht) place event).2 ⟨node, hnode, hevent⟩⟩

theorem sublist_steps_of_child {root : Node} {children : List SyntaxTree} {i : Nat}
    {child : SyntaxTree} (h : children[i]? = some child) {ss : List Step}
    (hss : ss.Sublist child.steps) :
    (ss.map (Step.within i)).Sublist (SyntaxTree.node root children).steps := by
  rw [steps]
  exact (((hss.map _).trans (sublist_forestSteps h)).cons _).trans (List.sublist_append_left _ _)

/-- What happens at the parts of the root happens after it is entered and before it is left. -/
theorem enter_leave_sublist (root : Node) (children : List SyntaxTree) {ss : List Step}
    (h : ss.Sublist (forestSteps 0 children)) :
    (([], Event.enter root) :: ss ++ [([], Event.leave root)]).Sublist
      (SyntaxTree.node root children).steps :=
  (h.cons_cons _).append_right _

theorem enter_leave (h : t.IsGrown) : ∀ place node, t.root.at? place = some node →
    [(place, .enter node), (place, .leave node)].Sublist t.steps := by
  induction h with
  | @node root children hparts hchildren ih =>
    rintro (_ | ⟨i, place⟩) node hnode
    · obtain rfl := Option.some.inj hnode
      exact enter_leave_sublist root children (List.nil_sublist _)
    · rw [SyntaxTree.root, at?_cons hparts, Option.bind_eq_some_iff] at hnode
      obtain ⟨child, hchild, hnode⟩ := hnode
      exact sublist_steps_of_child hchild (ih child (List.mem_of_getElem? hchild) place node hnode)

theorem nested (h : t.IsGrown) : ∀ place node i part, t.root.at? place = some node →
    node.parts[i]? = some part →
    [(place, .enter node), (place ++ [i], .enter part), (place ++ [i], .leave part),
      (place, .leave node)].Sublist t.steps := by
  induction h with
  | @node root children hparts hchildren ih =>
    rintro (_ | ⟨j, place⟩) node i part hnode hpart
    · obtain rfl := Option.some.inj hnode
      rw [SyntaxTree.root, ← hparts, List.getElem?_map, Option.map_eq_some_iff] at hpart
      obtain ⟨child, hchild, rfl⟩ := hpart
      have hsteps : [([], .enter child.root), ([], .leave child.root)].Sublist child.steps :=
        (hchildren child (List.mem_of_getElem? hchild)).enter_leave [] child.root rfl
      exact enter_leave_sublist root children
        ((hsteps.map (Step.within i)).trans (sublist_forestSteps hchild))
    · rw [SyntaxTree.root, at?_cons hparts, Option.bind_eq_some_iff] at hnode
      obtain ⟨child, hchild, hnode⟩ := hnode
      exact sublist_steps_of_child hchild
        (ih child (List.mem_of_getElem? hchild) place node i part hnode hpart)

/-- The steps of a tree that branches into the parts of its nodes are a traversal of its root. -/
theorem isTraversal (h : t.IsGrown) : t.root.IsTraversal t.steps where
  nodup := h.nodup_steps
  enter_mem_iff place node := by simp [h.mem_steps_iff]
  leave_mem_iff place node := by simp [h.mem_steps_iff]
  in_order := h.pairwise_entered
  enter_leave := h.enter_leave
  nested := h.nested

end IsGrown

end SyntaxTree

namespace Visitor

variable {σ ε : Type}

/-- The hooks of the visitor, called along the events from one state on, all pass and leave another
state. -/
inductive Passes (v : Visitor (ExceptT ε (StateM σ))) : List Event → σ → σ → Prop
  | nil (s : σ) : Passes v [] s s
  | cons {event : Event} {events : List Event} {s t u : σ} :
    (v.handle event).run.run s = (.ok (), t) → Passes v events t u →
      Passes v (event :: events) s u

variable {v : Visitor (ExceptT ε (StateM σ))} {s u : σ}

theorem run_forM_cons (event : Event) (events : List Event) :
    (forM (event :: events) v.handle).run.run s =
      match (v.handle event).run.run s with
      | (.ok (), t) => (forM events v.handle).run.run t
      | (.error e, t) => (.error e, t) := by
  rw [List.forM_cons, ExceptT.run_bind, StateT.run_bind]
  obtain ⟨result, t⟩ := (v.handle event).run.run s
  cases result <;> rfl

theorem passes_cons_iff {event : Event} {events : List Event} :
    v.Passes (event :: events) s u ↔
      ∃ t, (v.handle event).run.run s = (.ok (), t) ∧ v.Passes events t u := by
  constructor
  · rintro (_ | ⟨hevent, hevents⟩)
    exact ⟨_, hevent, hevents⟩
  · rintro ⟨t, hevent, hevents⟩
    exact .cons hevent hevents

theorem run_forM_eq_ok_iff {events : List Event} :
    (forM events v.handle).run.run s = (.ok (), u) ↔ v.Passes events s u := by
  induction events generalizing s with
  | nil =>
    constructor
    · rintro ⟨⟩
      exact .nil _
    · rintro ⟨⟩
      rfl
  | cons event events ih =>
    rw [run_forM_cons, passes_cons_iff]
    cases hevent : (v.handle event).run.run s with
    | mk result t =>
      cases result with
      | ok =>
        refine ih.trans ⟨fun hevents => ⟨t, rfl, hevents⟩, ?_⟩
        rintro ⟨_, ⟨⟩, hevents⟩
        exact hevents
      | error e =>
        constructor
        · rintro ⟨⟩
        · rintro ⟨_, ⟨⟩, -⟩

theorem run_forM_eq_error_iff {events : List Event} {e : ε} :
    (forM events v.handle).run.run s = (.error e, u) ↔
      ∃ before event after t, events = before ++ event :: after ∧ v.Passes before s t ∧
        (v.handle event).run.run t = (.error e, u) := by
  induction events generalizing s with
  | nil =>
    refine iff_of_false ?_ (by simp)
    rintro ⟨⟩
  | cons event events ih =>
    rw [run_forM_cons]
    cases hevent : (v.handle event).run.run s with
    | mk result t =>
      cases result with
      | ok =>
        refine ih.trans ⟨?_, ?_⟩
        · rintro ⟨before, failing, after, t', rfl, hbefore, hfailing⟩
          exact ⟨event :: before, failing, after, t', rfl, .cons hevent hbefore, hfailing⟩
        · rintro ⟨_ | ⟨first, before⟩, failing, after, t', heq, hbefore, hfailing⟩
          · cases heq
            cases hbefore
            cases hevent.symm.trans hfailing
          · cases heq
            obtain ⟨t'', hfirst, hbefore⟩ := passes_cons_iff.1 hbefore
            cases hevent.symm.trans hfirst
            exact ⟨before, failing, after, t', rfl, hbefore, hfailing⟩
      | error e' =>
        constructor
        · rintro ⟨⟩
          exact ⟨[], event, events, s, rfl, .nil s, hevent⟩
        · rintro ⟨_ | ⟨first, before⟩, failing, after, t', heq, hbefore, hfailing⟩
          · cases heq
            cases hbefore
            exact hevent.symm.trans hfailing
          · cases heq
            obtain ⟨t'', hfirst, -⟩ := passes_cons_iff.1 hbefore
            cases hevent.symm.trans hfirst

end Visitor

/-- The traversal law. The events of a document, each with the place of its node, enter and leave
each node of the document once, in document order and with the parts of a node in between. They
leave nothing out: no other document has the same events, even if they show of a node only what it
says apart from its parts. And a visit with a visitor that keeps a state and may fail calls the
hooks along these events: it passes if all of them do, and fails with the first that fails, in the
state that this one leaves. -/
theorem Document.visit_along_events (d : Document) :
    (∃ steps : List Step, (Node.document d).IsTraversal steps ∧ steps.map (·.2) = d.events) ∧
      (∀ d' : Document, d'.events.map Event.bare = d.events.map Event.bare → d' = d) ∧
      ∀ {σ ε : Type} (v : Visitor (ExceptT ε (StateM σ))) (s u : σ),
        ((d.visit v).run.run s = (.ok (), u) ↔ v.Passes d.events s u) ∧
          ∀ e, (d.visit v).run.run s = (.error e, u) ↔
            ∃ before event after t, d.events = before ++ event :: after ∧ v.Passes before s t ∧
              (v.handle event).run.run t = (.error e, u) := by
  refine ⟨⟨d.tree.steps, d.isGrown.isTraversal, d.tree.map_snd_steps⟩,
    fun d' => eq_of_map_bare_events_eq, fun v s u => ?_⟩
  rw [Document.visit, SyntaxTree.visit_eq_forM]
  exact ⟨Visitor.run_forM_eq_ok_iff, fun e => Visitor.run_forM_eq_error_iff⟩

end SchemaReshape
