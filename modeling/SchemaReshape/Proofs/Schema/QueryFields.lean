import SchemaReshape.Proofs.Document.Inner
import SchemaReshape.Schema.Supported

/-!
# Fields of the query type

`Document.checkQueryFields` follows with a flag whether it is inside the query type. The flag is
set exactly between entering and leaving an object type of that name, so that the check compares the
fields of all such types, extensions included, one after the other and no other field
(`Document.checkQueryFields_eq_forM`).
-/

namespace SchemaReshape

open SyntaxTree

def Node.isTypeOrField : Node → Bool
  | typeDefinition _ | fieldDefinition _ => true
  | _ => false

theorem Node.isTypeOrField_of_isInner {node : Node} (h : node.isInner = true) :
    node.isTypeOrField = false := by
  cases node <;> first | rfl | exact nomatch h

theorem Selection.forall_scopeTree_inert (selections : List Selection) :
    ∀ node ∈ (scopeTree selections).nodes, node.isTypeOrField = false := by
  intro node hnode
  rcases forall_scopeTree_selected selections node hnode with h | h
  · exact Node.isTypeOrField_of_isInner h
  · cases node <;> first | rfl | exact nomatch h

theorem Definition.forall_nodes_inert {d : Definition} (htype : ∀ t, d ≠ .type t)
    (hextension : ∀ e, d ≠ .extension e) : ∀ node ∈ d.tree.nodes, node.isTypeOrField = false := by
  have hdirective (x : Directive) : ∀ node ∈ x.tree.nodes, node.isTypeOrField = false :=
    fun node h => Node.isTypeOrField_of_isInner (x.forall_nodes_inner node h)
  cases d with
  | schema d =>
    exact SchemaDefinition.forall_nodes.2 ⟨rfl, fun x _ => hdirective x, fun _ _ => rfl⟩
  | type t => exact absurd rfl (htype t)
  | extension e => exact absurd rfl (hextension e)
  | directive d =>
    exact DirectiveDefinition.forall_nodes.2 ⟨rfl,
      fun a _ node h => Node.isTypeOrField_of_isInner (a.forall_nodes_inner node h)⟩
  | operation d =>
    exact d.forall_nodes_of_inner (fun _ => Node.isTypeOrField_of_isInner) rfl
      (Selection.forall_scopeTree_inert d.selections)
  | fragment d =>
    exact d.forall_nodes_of_inner (fun _ => Node.isTypeOrField_of_isInner) rfl
      (Selection.forall_scopeTree_inert d.selections)

/-- From the flag `inside` the action passes and fails as the check does, and it leaves the flag
alone. -/
def KeepsFlag (inside : Bool) (check : Except StructureFault Unit)
    (action : StateT Bool (Except StructureFault) Unit) : Prop :=
  action.run inside = check >>= fun _ => Pure.pure ((), inside)

namespace KeepsFlag

variable {inside : Bool} {c d : Except StructureFault Unit}
  {x y : StateT Bool (Except StructureFault) Unit}

theorem pure : KeepsFlag inside (Pure.pure ()) (Pure.pure ()) := rfl

theorem congr (h : c = d) (hx : KeepsFlag inside c x) : KeepsFlag inside d x := h ▸ hx

theorem bind (hx : KeepsFlag inside c x) (hy : KeepsFlag inside d y) :
    KeepsFlag inside (c >>= fun _ => d) (x >>= fun _ => y) := by
  unfold KeepsFlag at *
  rw [StateT.run_bind, hx, bind_assoc, bind_assoc]
  simp only [pure_bind, hy]

theorem run_eq (hx : KeepsFlag inside c x) : x.run' inside = c := by
  rw [StateT.run'_eq, hx]
  cases c <;> rfl

end KeepsFlag

namespace FieldDefinition

def IsNamedAfterType (field : FieldDefinition) : Prop := field.name = field.type.baseName

def checkName (field : FieldDefinition) : Except StructureFault Unit :=
  if field.name = field.type.baseName then pure ()
  else throw (.queryFieldMismatch field.name field.type.baseName)

theorem checkName_eq_ok_iff {field : FieldDefinition} :
    field.checkName = .ok () ↔ field.IsNamedAfterType := by
  rw [checkName, Check.ite_throw_eq_ok_iff]
  exact and_iff_left rfl

end FieldDefinition

/-- What is compared at a node while the flag is set. -/
def Node.checkFieldName : Node → Except StructureFault Unit
  | fieldDefinition field => field.checkName
  | _ => pure ()

theorem Node.checkFieldName_of_inert {node : Node} (h : node.isTypeOrField = false) :
    node.checkFieldName = .ok () := by
  cases node <;> first | rfl | exact nomatch h

namespace Visitor

variable (queryType : Name) (inside : Bool)

theorem keepsFlag_enter {node : Node} (hnode : ∀ d, node ≠ .typeDefinition d) :
    KeepsFlag inside (if inside then node.checkFieldName else pure ())
      ((queryFields queryType).enter node) := by
  cases node with
  | typeDefinition d => exact absurd rfl (hnode d)
  | fieldDefinition field =>
    unfold KeepsFlag Node.checkFieldName FieldDefinition.checkName
    simp only [queryFields, StateT.run_bind, StateT.run_get, pure_bind]
    by_cases h : field.name = field.type.baseName <;> cases inside <;> simp [h]
  | _ => exact KeepsFlag.pure.congr (ite_self _).symm

theorem keepsFlag_leave {node : Node} (hnode : ∀ d, node ≠ .typeDefinition d) :
    KeepsFlag inside (pure ()) ((queryFields queryType).leave node) := by
  cases node with
  | typeDefinition d => exact absurd rfl (hnode d)
  | _ => exact KeepsFlag.pure

mutual

/-- Apart from the definitions of types nothing changes the flag. -/
theorem keepsFlag_visit : ∀ t : SyntaxTree, (∀ node ∈ t.nodes, ∀ d, node ≠ .typeDefinition d) →
    KeepsFlag inside (if inside then forM t.nodes Node.checkFieldName else pure ())
      (t.visit (queryFields queryType))
  | .node root children, h => by
    obtain ⟨hroot, hchildren⟩ := forall_nodes_node.1 h
    refine KeepsFlag.congr ?_ ((keepsFlag_enter queryType inside hroot).bind
      ((keepsFlag_visitForest children hchildren).bind (keepsFlag_leave queryType inside hroot)))
    cases inside <;> simp [nodes]

theorem keepsFlag_visitForest : ∀ ts : List SyntaxTree,
    (∀ t ∈ ts, ∀ node ∈ t.nodes, ∀ d, node ≠ .typeDefinition d) →
    KeepsFlag inside (if inside then forM (forestNodes ts) Node.checkFieldName else pure ())
      (visitForest (queryFields queryType) ts)
  | [], _ => KeepsFlag.pure.congr (ite_self _).symm
  | t :: ts, h => by
    obtain ⟨ht, hts⟩ := List.forall_mem_cons.1 h
    refine KeepsFlag.congr ?_ ((keepsFlag_visit t ht).bind (keepsFlag_visitForest ts hts))
    cases inside <;> simp [forestNodes]

end

variable {queryType inside}

theorem keepsFlag_visit_node {root : Node} {children : List SyntaxTree}
    {c : Except StructureFault Unit} (hroot : root.isTypeOrField = false)
    (hchildren : KeepsFlag inside c (visitForest (queryFields queryType) children)) :
    KeepsFlag inside c ((SyntaxTree.node root children).visit (queryFields queryType)) := by
  have hpure : (queryFields queryType).enter root = pure () ∧
      (queryFields queryType).leave root = pure () := by
    cases root <;> first | exact ⟨rfl, rfl⟩ | exact nomatch hroot
  rw [SyntaxTree.visit, hpure.1, hpure.2, pure_bind]
  exact (hchildren.bind KeepsFlag.pure).congr bind_pure_unit

theorem keepsFlag_visit_inner {t : SyntaxTree} (h : ∀ node ∈ t.nodes, node.isTypeOrField = false) :
    KeepsFlag inside (pure ()) (t.visit (queryFields queryType)) := by
  refine (keepsFlag_visit queryType inside t fun node hnode d => ?_).congr ?_
  · rintro rfl
    exact nomatch h _ hnode
  · have hall : forM t.nodes Node.checkFieldName = .ok () :=
      Check.forM_eq_ok_iff.2 fun node hnode => Node.checkFieldName_of_inert (h node hnode)
    rw [hall]
    exact ite_self _

variable (inside)

theorem run_enter_typeDefinition (d : TypeDefinition) :
    ((queryFields queryType).enter (.typeDefinition d)).run inside =
      .ok ((), inside || (d.isObject && d.name == queryType)) := by
  simp only [queryFields]
  cases d.isObject && d.name == queryType <;> simp

theorem run_leave_typeDefinition (d : TypeDefinition) :
    ((queryFields queryType).leave (.typeDefinition d)).run inside =
      .ok ((), inside && !(d.isObject && d.name == queryType)) := by
  simp only [queryFields]
  cases d.isObject && d.name == queryType <;> simp

end Visitor

/-- If the type is an object type of that name, its fields are named after their types. -/
def TypeDefinition.FieldsAgree (queryType : Name) (d : TypeDefinition) : Prop :=
  d.isObject = true → d.name = queryType → ∀ field ∈ d.fields, field.IsNamedAfterType

/-- In trees without types and fields nothing is compared. -/
theorem SyntaxTree.forM_checkFieldName_of_inert {ts : List SyntaxTree}
    (h : ∀ t ∈ ts, ∀ node ∈ t.nodes, node.isTypeOrField = false) :
    forM (forestNodes ts) Node.checkFieldName = .ok () := by
  rw [Check.forM_eq_ok_iff]
  intro node hnode
  obtain ⟨t, ht, hnode⟩ := mem_forestNodes.1 hnode
  exact Node.checkFieldName_of_inert (h t ht node hnode)

theorem FieldDefinition.forM_checkFieldName (field : FieldDefinition) :
    forM field.tree.nodes Node.checkFieldName = field.checkName := by
  have hinert : ∀ t ∈ field.tree.children, ∀ node ∈ t.nodes, node.isTypeOrField = false := by
    have hinner : ∀ node : Node, node.isInner = true → node.isTypeOrField = false :=
      fun _ => Node.isTypeOrField_of_isInner
    rw [tree, children, List.forall_mem_append, List.forall_mem_cons]
    simp only [List.forall_mem_map]
    exact ⟨fun a _ node h => hinner node (a.forall_nodes_inner node h),
      fun node h => hinner node (field.type.forall_nodes_inner node h),
      fun x _ node h => hinner node (x.forall_nodes_inner node h)⟩
  have hnodes : field.tree.nodes = .fieldDefinition field :: forestNodes field.tree.children := rfl
  rw [hnodes, List.forM_cons, forM_checkFieldName_of_inert hinert]
  exact bind_pure_unit

theorem FieldDefinition.forM_trees_checkFieldName (fields : List FieldDefinition) :
    forM (forestNodes (fields.map tree)) Node.checkFieldName = forM fields checkName := by
  induction fields with
  | nil => rfl
  | cons field fields ih =>
    rw [List.map_cons, forestNodes, List.forM_append, forM_checkFieldName, ih, List.forM_cons]

namespace TypeDefinition

variable {queryType : Name} (d : TypeDefinition)

theorem forall_children_inert :
    ∀ t ∈ d.tree.children, ∀ node ∈ t.nodes, ∀ e, node ≠ .typeDefinition e := by
  have hinner : ∀ node : Node, node.isInner = true → ∀ e, node ≠ .typeDefinition e := by
    rintro node h e rfl
    exact nomatch h
  rw [forall_children]
  refine ⟨fun _ _ => hinner _ rfl, fun x _ node h => hinner _ (x.forall_nodes_inner node h),
    fun field _ => ?_, fun _ _ => hinner _ rfl, fun v _ => ?_,
    fun field _ node h => hinner _ (field.forall_nodes_inner node h)⟩
  · exact FieldDefinition.forall_nodes.2 ⟨nofun,
      fun a _ node h => hinner _ (a.forall_nodes_inner node h),
      fun node h => hinner _ (field.type.forall_nodes_inner node h),
      fun x _ node h => hinner _ (x.forall_nodes_inner node h)⟩
  · exact EnumValueDefinition.forall_nodes.2 ⟨nofun,
      fun x _ node h => hinner _ (x.forall_nodes_inner node h)⟩

/-- Below a type its fields are compared and nothing else. -/
theorem forM_children_checkFieldName :
    forM (forestNodes d.tree.children) Node.checkFieldName =
      forM d.fields FieldDefinition.checkName := by
  have hnames (ns : List Name) :
      forM (forestNodes (ns.map Name.typeTree)) Node.checkFieldName = .ok () :=
    forM_checkFieldName_of_inert (List.forall_mem_map.2 fun _ _ => forall_nodes_leaf.2 rfl)
  have hdirectives (xs : List Directive) :
      forM (forestNodes (xs.map Directive.tree)) Node.checkFieldName = .ok () :=
    forM_checkFieldName_of_inert (List.forall_mem_map.2 fun x _ node h =>
      Node.isTypeOrField_of_isInner (x.forall_nodes_inner node h))
  have hvalues (vs : List EnumValueDefinition) :
      forM (forestNodes (vs.map EnumValueDefinition.tree)) Node.checkFieldName = .ok () :=
    forM_checkFieldName_of_inert (List.forall_mem_map.2 fun v _ =>
      EnumValueDefinition.forall_nodes.2 ⟨rfl, fun x _ node h =>
        Node.isTypeOrField_of_isInner (x.forall_nodes_inner node h)⟩)
  have hinputs (inputs : List InputValueDefinition) :
      forM (forestNodes (inputs.map InputValueDefinition.tree)) Node.checkFieldName = .ok () :=
    forM_checkFieldName_of_inert (List.forall_mem_map.2 fun a _ node h =>
      Node.isTypeOrField_of_isInner (a.forall_nodes_inner node h))
  obtain ⟨description, name, directives, body⟩ := d
  cases body <;>
    simp only [tree, children, fields, forestNodes_append, List.forM_append, hnames, hdirectives,
      hvalues, hinputs, FieldDefinition.forM_trees_checkFieldName] <;> rfl

def fieldsAs (typeName : Name) : List FieldDefinition :=
  if d.isObject && d.name == typeName then d.fields else []

/-- Outside of any type, the flag is clear again after a type has been visited. -/
theorem keepsFlag_visit :
    KeepsFlag false (forM (d.fieldsAs queryType) FieldDefinition.checkName)
      (d.tree.visit (.queryFields queryType)) := by
  have htree : d.tree = .node (.typeDefinition d) d.tree.children := rfl
  have hchildren := Visitor.keepsFlag_visitForest queryType (d.isObject && d.name == queryType)
    d.tree.children d.forall_children_inert
  rw [forM_children_checkFieldName] at hchildren
  unfold KeepsFlag at hchildren ⊢
  rw [htree, SyntaxTree.visit, StateT.run_bind, Visitor.run_enter_typeDefinition, Bool.false_or]
  change StateT.run (visitForest (.queryFields queryType) d.tree.children >>= fun _ =>
    (Visitor.queryFields queryType).leave (.typeDefinition d)) _ = _
  rw [StateT.run_bind, hchildren, bind_assoc]
  simp only [pure_bind, Visitor.run_leave_typeDefinition, Bool.and_not_self, fieldsAs]
  cases d.isObject && d.name == queryType <;> rfl

theorem forall_fieldsAs_iff {P : FieldDefinition → Prop} :
    (∀ field ∈ d.fieldsAs queryType, P field) ↔
      (d.isObject = true → d.name = queryType → ∀ field ∈ d.fields, P field) := by
  rw [fieldsAs]
  by_cases h : d.isObject = true ∧ d.name = queryType
  · simp [h]
  · rw [if_neg (by simpa using h)]
    exact iff_of_true (List.forall_mem_nil _) fun hobject hname => absurd ⟨hobject, hname⟩ h

end TypeDefinition

namespace Definition

def typesWithin : Definition → List TypeDefinition
  | type d | extension (.type d) => [d]
  | _ => []

def fieldsOf (typeName : Name) (d : Definition) : List FieldDefinition :=
  d.typesWithin.flatMap (·.fieldsAs typeName)

theorem fieldsOf_type (typeName : Name) (d : TypeDefinition) :
    (type d).fieldsOf typeName = d.fieldsAs typeName := List.append_nil _

theorem fieldsOf_extension_type (typeName : Name) (d : TypeDefinition) :
    (extension (.type d)).fieldsOf typeName = d.fieldsAs typeName := List.append_nil _

/-- Whatever is defined, the flag is clear before and after. -/
theorem keepsFlag_visit {queryType : Name} (d : Definition) :
    KeepsFlag false (forM (d.fieldsOf queryType) FieldDefinition.checkName)
      (d.tree.visit (.queryFields queryType)) := by
  cases d with
  | type d =>
    rw [fieldsOf_type]
    exact d.keepsFlag_visit
  | extension e =>
    cases e with
    | schema d =>
      refine Visitor.keepsFlag_visit_inner (forall_nodes_node.2 ⟨rfl, ?_⟩)
      exact List.forall_mem_singleton.2 (forall_nodes_inert (d := .schema d) nofun nofun)
    | type d =>
      rw [fieldsOf_extension_type]
      refine Visitor.keepsFlag_visit_node rfl ?_
      exact (d.keepsFlag_visit.bind KeepsFlag.pure).congr bind_pure_unit
  | _ => exact Visitor.keepsFlag_visit_inner (forall_nodes_inert nofun nofun)

theorem keepsFlag_visitForest {queryType : Name} (ds : List Definition) :
    KeepsFlag false (forM (ds.flatMap (·.fieldsOf queryType)) FieldDefinition.checkName)
      (visitForest (.queryFields queryType) (ds.map tree)) := by
  induction ds with
  | nil => exact KeepsFlag.pure
  | cons d ds ih =>
    refine (d.keepsFlag_visit.bind ih).congr ?_
    rw [List.flatMap_cons, List.forM_append]

theorem mem_typesWithin {d : Definition} {t : TypeDefinition} :
    t ∈ d.typesWithin ↔ d = .type t ∨ d = .extension (.type t) := by
  cases d with
  | extension e => cases e <;> simp [typesWithin, eq_comm]
  | _ => simp [typesWithin, eq_comm]

end Definition

namespace Document

variable {document : Document} {queryType : Name}

/-- The fields of the object types of the name, of definitions and extensions alike. -/
def fieldsOf (document : Document) (typeName : Name) : List FieldDefinition :=
  document.definitions.flatMap (·.fieldsOf typeName)

/-- The check compares the fields of the object types of the name one after the other. -/
theorem checkQueryFields_eq_forM :
    document.checkQueryFields queryType =
      forM (document.fieldsOf queryType) FieldDefinition.checkName :=
  (Visitor.keepsFlag_visit_node rfl (Definition.keepsFlag_visitForest document.definitions)).run_eq

theorem checkQueryFields_eq_ok_iff :
    document.checkQueryFields queryType = .ok () ↔
      ∀ d ∈ document.definitions, ∀ t ∈ d.typesWithin, t.FieldsAgree queryType := by
  rw [checkQueryFields_eq_forM, Check.forM_eq_ok_iff, fieldsOf, List.forall_mem_flatMap]
  simp only [Definition.fieldsOf, List.forall_mem_flatMap, TypeDefinition.forall_fieldsAs_iff,
    FieldDefinition.checkName_eq_ok_iff, TypeDefinition.FieldsAgree]

/-- The check passes if and only if every field of every object type of that name has the name of
its type, whether the type is defined or extended. Whatever else there is, before or after, the
check compares these fields alone, and the first of them that differs is the one that is told. -/
theorem checkQueryFields_compares_fieldsOf (document : Document) (queryType : Name) :
    (document.checkQueryFields queryType = .ok () ↔
      ∀ t, (.type t ∈ document.definitions ∨ .extension (.type t) ∈ document.definitions) →
        t.isObject = true → t.name = queryType →
          ∀ field ∈ t.fields, field.name = field.type.baseName) ∧
    document.checkQueryFields queryType =
      forM (document.fieldsOf queryType) FieldDefinition.checkName := by
  refine ⟨?_, checkQueryFields_eq_forM⟩
  rw [checkQueryFields_eq_ok_iff]
  simp only [Definition.mem_typesWithin]
  constructor
  · rintro h t (ht | ht)
    · exact h _ ht t (.inl rfl)
    · exact h _ ht t (.inr rfl)
  · rintro h d hd t (rfl | rfl)
    · exact h t (.inl hd)
    · exact h t (.inr hd)

end Document

end SchemaReshape
