import Mathlib.Data.List.Perm.Basic
import SchemaReshape.Document.Traversal

/-!
# Checks that pass

A check returns in `Except` or throws its first fault. For each way of putting checks together the
lemmas say when the whole passes; a check on entering nodes is the same check along the nodes of the
tree (`visit_onEnter_eq_forM`).
-/

namespace SchemaReshape

namespace Check

variable {ε ε' α β : Type}

@[simp] theorem pure_eq_ok_iff {a b : α} : (pure a : Except ε α) = .ok b ↔ a = b :=
  ⟨Except.ok.inj, congrArg _⟩

@[simp] theorem throw_eq_ok_iff {e : ε} {a : α} : (throw e : Except ε α) = .ok a ↔ False :=
  ⟨nofun, False.elim⟩

@[simp] theorem throw_bind_eq {e : ε} {f : α → Except ε β} : throw e >>= f = throw e := rfl

theorem bind_eq_ok_iff {x : Except ε α} {f : α → Except ε β} {b : β} :
    x >>= f = .ok b ↔ ∃ a, x = .ok a ∧ f a = .ok b := by
  cases x <;> simp [bind, Except.bind]

@[simp] theorem bind_unit_eq_ok_iff {x : Except ε Unit} {f : Unit → Except ε β} {b : β} :
    x >>= f = .ok b ↔ x = .ok () ∧ f () = .ok b := by
  rw [bind_eq_ok_iff]
  exact ⟨fun ⟨(), hx, hf⟩ => ⟨hx, hf⟩, fun ⟨hx, hf⟩ => ⟨(), hx, hf⟩⟩

theorem bind_congr_of_ok {x : Except ε α} {f g : α → Except ε β}
    (h : ∀ a, x = .ok a → f a = g a) : x >>= f = x >>= g := by
  cases x with
  | error e => rfl
  | ok a => exact h a rfl

@[simp] theorem mapError_eq_ok_iff {x : Except ε α} {f : ε → ε'} {a : α} :
    x.mapError f = .ok a ↔ x = .ok a := by
  constructor
  · intro h
    cases x with
    | error e => cases h
    | ok b =>
      cases h
      rfl
  · rintro rfl
    rfl

@[simp] theorem ite_throw_eq_ok_iff {c : Prop} [Decidable c] {x : Except ε α} {e : ε} {a : α} :
    (if c then x else throw e) = .ok a ↔ c ∧ x = .ok a := by
  by_cases hc : c <;> simp [hc]

@[simp] theorem ite_throw_else_eq_ok_iff {c : Prop} [Decidable c] {x : Except ε α} {e : ε}
    {a : α} : (if c then throw e else x) = .ok a ↔ ¬ c ∧ x = .ok a := by
  by_cases hc : c <;> simp [hc]

@[simp] theorem forM_eq_ok_iff {xs : List α} {f : α → Except ε Unit} :
    forM xs f = .ok () ↔ ∀ x ∈ xs, f x = .ok () := by
  induction xs with
  | nil => simp
  | cons x xs ih => simp [ih]

/-- Checks fail with the fault of the first one that does not pass. -/
theorem forM_eq_error_iff {xs : List α} {f : α → Except ε Unit} {e : ε} :
    forM xs f = .error e ↔ ∃ before x after, xs = before ++ x :: after ∧
      (∀ y ∈ before, f y = .ok ()) ∧ f x = .error e := by
  induction xs with
  | nil =>
    refine iff_of_false ?_ (by simp)
    rintro ⟨⟩
  | cons x xs ih =>
    rw [List.forM_cons]
    cases hx : f x with
    | error e' =>
      constructor
      · rintro ⟨⟩
        exact ⟨[], x, xs, rfl, List.forall_mem_nil _, hx⟩
      · rintro ⟨before, y, after, heq, hbefore, hy⟩
        cases before with
        | nil =>
          obtain ⟨rfl, -⟩ := List.cons.inj heq
          exact hx.symm.trans hy
        | cons z before =>
          obtain ⟨rfl, -⟩ := List.cons.inj heq
          cases hx.symm.trans (hbefore x List.mem_cons_self)
    | ok =>
      refine ih.trans ⟨?_, ?_⟩
      · rintro ⟨before, y, after, rfl, hbefore, hy⟩
        exact ⟨x :: before, y, after, rfl, List.forall_mem_cons.2 ⟨hx, hbefore⟩, hy⟩
      · rintro ⟨before, y, after, heq, hbefore, hy⟩
        cases before with
        | nil =>
          obtain ⟨rfl, -⟩ := List.cons.inj heq
          cases hx.symm.trans hy
        | cons z before =>
          obtain ⟨-, rfl⟩ := List.cons.inj heq
          exact ⟨before, y, after, rfl, (List.forall_mem_cons.1 hbefore).2, hy⟩

theorem forM_filter_eq {xs : List α} {f : α → Except ε Unit} {keep : α → Bool}
    (h : ∀ x ∈ xs, keep x = false → f x = .ok ()) : forM (xs.filter keep) f = forM xs f := by
  induction xs with
  | nil => rfl
  | cons x xs ih =>
    obtain ⟨hx, hxs⟩ := List.forall_mem_cons.1 h
    cases hkeep : keep x with
    | true => rw [List.filter_cons_of_pos hkeep, List.forM_cons, List.forM_cons, ih hxs]
    | false =>
      rw [List.filter_cons_of_neg (by simp [hkeep]), List.forM_cons, hx hkeep, ih hxs]
      rfl

theorem mapM_cons_eq_ok_iff {x : α} {xs : List α} {ys : List β} {f : α → Except ε β} :
    (x :: xs).mapM f = .ok ys ↔ ∃ y, f x = .ok y ∧ ∃ zs, xs.mapM f = .ok zs ∧ y :: zs = ys := by
  simp only [List.mapM_cons, bind_eq_ok_iff, pure_eq_ok_iff]

/-- Checks that return values pass one by one. -/
theorem mapM_eq_ok_iff_forall₂ {xs : List α} {ys : List β} {f : α → Except ε β} :
    xs.mapM f = .ok ys ↔ List.Forall₂ (fun x y => f x = .ok y) xs ys := by
  induction xs generalizing ys with
  | nil =>
    rw [List.mapM_nil, pure_eq_ok_iff, List.forall₂_nil_left_iff, eq_comm]
  | cons x xs ih =>
    simp only [mapM_cons_eq_ok_iff, ih, List.forall₂_cons_left_iff, exists_and_left,
      @eq_comm _ ys]

section MapM

variable {xs : List α} {ys : List β} {f : α → Except ε β} (h : xs.mapM f = .ok ys)

include h

theorem exists_of_mapM_eq_ok {x : α} (hx : x ∈ xs) : ∃ y ∈ ys, f x = .ok y := by
  induction xs generalizing ys with
  | nil => exact absurd hx List.not_mem_nil
  | cons x' xs ih =>
    obtain ⟨y', hy', zs, hzs, rfl⟩ := mapM_cons_eq_ok_iff.1 h
    rcases List.mem_cons.1 hx with rfl | hx
    · exact ⟨y', List.mem_cons_self, hy'⟩
    · obtain ⟨y, hy, hcheck⟩ := ih hzs hx
      exact ⟨y, List.mem_cons_of_mem y' hy, hcheck⟩

theorem exists_of_mem_of_mapM_eq_ok {y : β} (hy : y ∈ ys) : ∃ x ∈ xs, f x = .ok y := by
  induction xs generalizing ys with
  | nil =>
    rw [List.mapM_nil, pure_eq_ok_iff] at h
    exact absurd (h ▸ hy) List.not_mem_nil
  | cons x xs ih =>
    obtain ⟨y', hy', zs, hzs, rfl⟩ := mapM_cons_eq_ok_iff.1 h
    rcases List.mem_cons.1 hy with rfl | hy
    · exact ⟨x, List.mem_cons_self, hy'⟩
    · obtain ⟨x', hx', hcheck⟩ := ih hzs hy
      exact ⟨x', List.mem_cons_of_mem x hx', hcheck⟩

/-- In another order the same checks pass and return the same values. -/
theorem exists_perm_of_mapM_eq_ok {xs' : List α} (hperm : xs'.Perm xs) :
    ∃ ys', xs'.mapM f = .ok ys' ∧ ys'.Perm ys := by
  obtain ⟨ys', hys', hperm'⟩ := List.perm_comp_forall₂ hperm (mapM_eq_ok_iff_forall₂.1 h)
  exact ⟨ys', mapM_eq_ok_iff_forall₂.2 hys', hperm'⟩

end MapM

/-- All that the check can fail with is such a fault. -/
def Raises (P : ε → Prop) (x : Except ε α) : Prop := ∀ e, x = .error e → P e

namespace Raises

variable {P : ε → Prop}

theorem pure {a : α} : Raises P (.ok a) := by
  rintro _ ⟨⟩

theorem throw {e : ε} (h : P e) : Raises P (.error e : Except ε α) := by
  rintro _ ⟨⟩
  exact h

theorem ite {b : Prop} [Decidable b] {x y : Except ε α} (hx : Raises P x) (hy : Raises P y) :
    Raises P (if b then x else y) := by
  split
  · exact hx
  · exact hy

theorem bind {x : Except ε α} {f : α → Except ε β} (hx : Raises P x)
    (hf : ∀ a, Raises P (f a)) : Raises P (x >>= f) := by
  cases x with
  | error e => exact throw (hx e rfl)
  | ok a => exact hf a

theorem forM {xs : List α} {f : α → Except ε Unit} (h : ∀ x, Raises P (f x)) :
    Raises P (forM xs f) := by
  induction xs with
  | nil => exact pure
  | cons x xs ih =>
    rw [List.forM_cons]
    exact (h x).bind fun _ => ih

end Raises

end Check

namespace SyntaxTree

theorem mem_forestNodes {node : Node} {ts : List SyntaxTree} :
    node ∈ forestNodes ts ↔ ∃ t ∈ ts, node ∈ t.nodes := by
  induction ts with
  | nil => simp [forestNodes]
  | cons t ts ih => simp [forestNodes, ih]

theorem forestNodes_append (ts us : List SyntaxTree) :
    forestNodes (ts ++ us) = forestNodes ts ++ forestNodes us := by
  induction ts with
  | nil => rfl
  | cons t ts ih => rw [List.cons_append, forestNodes, ih, forestNodes, List.append_assoc]

theorem mem_nodes_node {node root : Node} {children : List SyntaxTree} :
    node ∈ (SyntaxTree.node root children).nodes ↔
      node = root ∨ ∃ t ∈ children, node ∈ t.nodes := by
  rw [nodes, List.mem_cons, mem_forestNodes]

/-- A property of all nodes of a tree is one of its root and of all nodes of its children. -/
theorem forall_nodes_node {P : Node → Prop} {root : Node} {children : List SyntaxTree} :
    (∀ node ∈ (SyntaxTree.node root children).nodes, P node) ↔
      P root ∧ ∀ t ∈ children, ∀ node ∈ t.nodes, P node := by
  simp only [mem_nodes_node]
  constructor
  · intro h
    exact ⟨h root (.inl rfl), fun t ht node hnode => h node (.inr ⟨t, ht, hnode⟩)⟩
  · rintro ⟨hroot, hchildren⟩ node (rfl | ⟨t, ht, hnode⟩)
    · exact hroot
    · exact hchildren t ht node hnode

theorem forall_nodes_leaf {P : Node → Prop} {root : Node} :
    (∀ node ∈ (SyntaxTree.leaf root).nodes, P node) ↔ P root := by
  simp [leaf, forall_nodes_node]

mutual

/-- A check on entering nodes runs along the nodes of the tree. -/
theorem visit_onEnter_eq_forM {ε : Type} {check : Node → Except ε Unit} :
    ∀ t : SyntaxTree, t.visit (.onEnter check) = forM t.nodes check
  | node root children => by
    simp [visit, Visitor.onEnter, nodes, ← visitForest_onEnter_eq_forM children]

theorem visitForest_onEnter_eq_forM {ε : Type} {check : Node → Except ε Unit} :
    ∀ ts : List SyntaxTree, visitForest (.onEnter check) ts = forM (forestNodes ts) check
  | [] => by simp [visitForest, forestNodes]
  | t :: ts => by
    simp [visitForest, forestNodes, visit_onEnter_eq_forM t, visitForest_onEnter_eq_forM ts]

end

theorem visit_onEnter_eq_ok_iff {ε : Type} {check : Node → Except ε Unit} {t : SyntaxTree} :
    t.visit (.onEnter check) = .ok () ↔ ∀ node ∈ t.nodes, check node = .ok () := by
  rw [visit_onEnter_eq_forM, Check.forM_eq_ok_iff]

end SyntaxTree

end SchemaReshape
