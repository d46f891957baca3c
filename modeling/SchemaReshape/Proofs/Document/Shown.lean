import SchemaReshape.Proofs.Document.Parts

/-!
# What the events of a document show

`Node.bare` takes its parts from a node and leaves what the node says by itself. A node can be told
from that and its parts (`Node.eq_of_bare_eq`), so that the events of a document, each with no more
of its node than that, determine the document (`Document.eq_of_map_bare_events_eq`): a traversal
leaves out nothing.
-/

namespace SchemaReshape

def RootTypes.bare (roots : RootTypes) : RootTypes :=
  ⟨roots.query?.map fun _ => "", roots.mutation?.map fun _ => "",
    roots.subscription?.map fun _ => ""⟩

def TypeBody.bare : TypeBody → TypeBody
  | scalar => scalar
  | object .. => object [] []
  | interface .. => interface [] []
  | union _ => union []
  | enum _ => enum []
  | inputObject _ => inputObject []

def TypeRef.bare : TypeRef → TypeRef
  | named n => named n
  | list _ => list (named "")
  | nonNull _ => nonNull (named "")

def Value.bare : Value → Value
  | list _ => list []
  | object _ => object []
  | v => v

def Selection.bare : Selection → Selection
  | field head _ => field { head with arguments := [], directives := [] } []
  | fragmentSpread name _ => fragmentSpread name []
  | inlineFragment .. => inlineFragment none [] []

/-- The node with nothing in the place of its parts. -/
def Node.bare : Node → Node
  | document _ => document ⟨[]⟩
  | schemaDefinition d => schemaDefinition ⟨[], d.roots.bare⟩
  | typeDefinition d => typeDefinition { d with directives := [], body := d.body.bare }
  | extension _ => extension (.schema ⟨[], ∅⟩)
  | directiveDefinition d => directiveDefinition { d with arguments := [] }
  | operationDefinition d =>
    operationDefinition { d with variableDefinitions := [], directives := [], selections := [] }
  | fragmentDefinition d =>
    fragmentDefinition { d with condition := "", directives := [], selections := [] }
  | fieldDefinition d =>
    fieldDefinition { d with arguments := [], type := .named "", directives := [] }
  | inputValueDefinition d =>
    inputValueDefinition { d with type := .named "", default := none, directives := [] }
  | enumValueDefinition d => enumValueDefinition { d with directives := [] }
  | variableDefinition _ => variableDefinition ⟨"", .named "", none, []⟩
  | typeRef t => typeRef t.bare
  | directive d => directive { d with arguments := [] }
  | argument a => argument { a with value := .null }
  | value v => value v.bare
  | objectField name _ => objectField name .null
  | selectionSet _ => selectionSet []
  | selection x => selection x.bare

def Event.bare : Event → Event
  | enter node => enter node.bare
  | leave node => leave node.bare

section Lists

variable {α β : Type} {f : α → β}

/-- A list of parts of one sort can be told from the parts after it, which are of other sorts. -/
theorem eq_of_map_append_eq (hf : ∀ {a b}, f a = f b → a = b) :
    ∀ {as bs : List α} {rest rest' : List β}, (∀ a, f a ∉ rest) → (∀ a, f a ∉ rest') →
      as.map f ++ rest = bs.map f ++ rest' → as = bs ∧ rest = rest'
  | [], [], _, _, _, _, h => ⟨rfl, h⟩
  | [], b :: _, _, _, hrest, _, h => by
    subst h
    exact absurd List.mem_cons_self (hrest b)
  | a :: _, [], _, _, _, hrest', h => by
    subst h
    exact absurd List.mem_cons_self (hrest' a)
  | a :: as, b :: bs, rest, rest', hrest, hrest', h => by
    obtain ⟨hhead, htail⟩ := List.cons.inj h
    obtain ⟨has, hrests⟩ := eq_of_map_append_eq hf hrest hrest' htail
    exact ⟨by rw [hf hhead, has], hrests⟩

theorem eq_of_map_eq (hf : ∀ {a b}, f a = f b → a = b) {as bs : List α}
    (h : as.map f = bs.map f) : as = bs :=
  List.map_injective_iff.2 (fun _ _ => hf) h

theorem eq_of_toList_eq {a b : Option α} (h : a.toList = b.toList) : a = b := by
  cases a <;> cases b <;> simp_all

end Lists

theorem Name.eq_of_typeNode_eq {n m : Name} (h : n.typeNode = m.typeNode) : n = m := by
  cases h
  rfl

theorem Definition.eq_of_node_eq {d d' : Definition} (h : d.node = d'.node) : d = d' := by
  cases d <;> cases d' <;> simp_all [node]

theorem Extension.eq_of_node_eq {e e' : Extension} (h : e.node = e'.node) : e = e' := by
  cases e <;> cases e' <;> simp_all [node]

theorem RootTypes.eq_of_bare_eq {roots roots' : RootTypes} (hbare : roots.bare = roots'.bare)
    (hlist : roots.toList = roots'.toList) : roots = roots' := by
  obtain ⟨query?, mutation?, subscription?⟩ := roots
  obtain ⟨query?', mutation?', subscription?'⟩ := roots'
  cases query? <;> cases query?' <;> cases mutation? <;> cases mutation?' <;>
    cases subscription? <;> cases subscription?' <;> simp_all [bare, toList]

theorem TypeRef.eq_of_bare_eq {t u : TypeRef} (hbare : t.bare = u.bare)
    (hparts : t.parts = u.parts) : t = u := by
  cases t <;> cases u <;> simp_all [bare, parts]

theorem Value.eq_of_bare_eq {v w : Value} (hbare : v.bare = w.bare) (hparts : v.parts = w.parts) :
    v = w := by
  cases v <;> cases w <;> simp_all only [bare, parts, reduceCtorEq]
  case list.list => rw [eq_of_map_eq Node.value.inj hparts]
  case object.object =>
    refine congrArg object (eq_of_map_eq (fun {f g} h => ?_) hparts)
    exact Prod.ext (Node.objectField.inj h).1 (Node.objectField.inj h).2

theorem Selection.eq_of_bare_eq {x y : Selection} (hbare : x.bare = y.bare)
    (hparts : x.parts = y.parts) : x = y := by
  simp only [parts, List.append_assoc] at hparts
  obtain ⟨hcondition, hparts⟩ := eq_of_map_append_eq Name.eq_of_typeNode_eq
    (by simp [Name.typeNode]) (by simp [Name.typeNode]) hparts
  obtain ⟨harguments, hparts⟩ := eq_of_map_append_eq Node.argument.inj (by simp) (by simp) hparts
  obtain ⟨hdirectives, hparts⟩ := eq_of_map_append_eq Node.directive.inj (by simp) (by simp) hparts
  have hcondition := eq_of_toList_eq hcondition
  have hscope := eq_of_toList_eq (eq_of_map_eq Node.selectionSet.inj hparts)
  cases x with
  | field head =>
    obtain ⟨responseName?, name, arguments, directives⟩ := head
    cases y <;> simp_all [bare, Selection.arguments, Selection.directives, scope?]
  | fragmentSpread | inlineFragment =>
    cases y <;> simp_all [bare, Selection.condition?, Selection.directives, scope?]

theorem TypeDefinition.eq_of_bare_eq {d d' : TypeDefinition}
    (hbare : (Node.typeDefinition d).bare = (Node.typeDefinition d').bare)
    (hparts : d.parts = d'.parts) : d = d' := by
  obtain ⟨description, name, directives, body⟩ := d
  obtain ⟨description', name', directives', body'⟩ := d'
  simp only [Node.bare, Node.typeDefinition.injEq, mk.injEq, true_and] at hbare
  obtain ⟨rfl, rfl, hbody⟩ := hbare
  cases body <;> cases body' <;> simp only [TypeBody.bare, reduceCtorEq] at hbody
  all_goals
    simp only [parts, interfaces, fields, members, enumValues, inputFields, List.map_nil,
      List.nil_append, List.append_nil, List.append_assoc] at hparts
  case scalar.scalar => rw [eq_of_map_eq Node.directive.inj hparts]
  case object.object | interface.interface =>
    obtain ⟨hinterfaces, hparts⟩ := eq_of_map_append_eq Name.eq_of_typeNode_eq
      (by simp [Name.typeNode]) (by simp [Name.typeNode]) hparts
    obtain ⟨hdirectives, hfields⟩ :=
      eq_of_map_append_eq Node.directive.inj (by simp) (by simp) hparts
    rw [hinterfaces, hdirectives, eq_of_map_eq Node.fieldDefinition.inj hfields]
  case union.union =>
    obtain ⟨hdirectives, hmembers⟩ := eq_of_map_append_eq Node.directive.inj
      (by simp [Name.typeNode]) (by simp [Name.typeNode]) hparts
    rw [hdirectives, eq_of_map_eq Name.eq_of_typeNode_eq hmembers]
  case enum.enum =>
    obtain ⟨hdirectives, hvalues⟩ :=
      eq_of_map_append_eq Node.directive.inj (by simp) (by simp) hparts
    rw [hdirectives, eq_of_map_eq Node.enumValueDefinition.inj hvalues]
  case inputObject.inputObject =>
    obtain ⟨hdirectives, hfields⟩ :=
      eq_of_map_append_eq Node.directive.inj (by simp) (by simp) hparts
    rw [hdirectives, eq_of_map_eq Node.inputValueDefinition.inj hfields]

theorem SchemaDefinition.eq_of_bare_eq {d d' : SchemaDefinition}
    (hbare : d.roots.bare = d'.roots.bare)
    (hparts : (Node.schemaDefinition d).parts = (Node.schemaDefinition d').parts) : d = d' := by
  obtain ⟨directives, roots⟩ := d
  obtain ⟨directives', roots'⟩ := d'
  obtain ⟨hdirectives, hroots⟩ := eq_of_map_append_eq Node.directive.inj
    (by simp [Name.typeNode]) (by simp [Name.typeNode]) hparts
  have hroots := RootTypes.eq_of_bare_eq hbare (eq_of_map_eq Name.eq_of_typeNode_eq hroots)
  simp_all

theorem FieldDefinition.eq_of_bare_eq {d d' : FieldDefinition}
    (hbare : (Node.fieldDefinition d).bare = (Node.fieldDefinition d').bare)
    (hparts : (Node.fieldDefinition d).parts = (Node.fieldDefinition d').parts) : d = d' := by
  obtain ⟨description, name, arguments, type, directives⟩ := d
  obtain ⟨description', name', arguments', type', directives'⟩ := d'
  obtain ⟨harguments, hparts⟩ :=
    eq_of_map_append_eq Node.inputValueDefinition.inj (by simp) (by simp) hparts
  obtain ⟨htype, hdirectives⟩ := List.cons.inj hparts
  have hdirectives := eq_of_map_eq Node.directive.inj hdirectives
  simp_all [Node.bare]

theorem InputValueDefinition.eq_of_bare_eq {d d' : InputValueDefinition}
    (hbare : (Node.inputValueDefinition d).bare = (Node.inputValueDefinition d').bare)
    (hparts : (Node.inputValueDefinition d).parts = (Node.inputValueDefinition d').parts) :
    d = d' := by
  obtain ⟨description, name, type, default, directives⟩ := d
  obtain ⟨description', name', type', default', directives'⟩ := d'
  obtain ⟨htype, hparts⟩ := List.cons.inj hparts
  obtain ⟨hdefault, hdirectives⟩ := eq_of_map_append_eq Node.value.inj (by simp) (by simp) hparts
  have hdefault := eq_of_toList_eq hdefault
  have hdirectives := eq_of_map_eq Node.directive.inj hdirectives
  simp_all [Node.bare]

theorem VariableDefinition.eq_of_parts_eq {d d' : VariableDefinition}
    (hparts : (Node.variableDefinition d).parts = (Node.variableDefinition d').parts) :
    d = d' := by
  obtain ⟨name, type, default, directives⟩ := d
  obtain ⟨name', type', default', directives'⟩ := d'
  obtain ⟨hname, hparts⟩ := List.cons.inj hparts
  obtain ⟨htype, hparts⟩ := List.cons.inj hparts
  obtain ⟨hdefault, hdirectives⟩ := eq_of_map_append_eq Node.value.inj (by simp) (by simp) hparts
  have hdefault := eq_of_toList_eq hdefault
  have hdirectives := eq_of_map_eq Node.directive.inj hdirectives
  simp_all

theorem OperationDefinition.eq_of_bare_eq {d d' : OperationDefinition}
    (hbare : (Node.operationDefinition d).bare = (Node.operationDefinition d').bare)
    (hparts : (Node.operationDefinition d).parts = (Node.operationDefinition d').parts) :
    d = d' := by
  obtain ⟨kind, name?, variableDefinitions, directives, selections⟩ := d
  obtain ⟨kind', name?', variableDefinitions', directives', selections'⟩ := d'
  simp only [Node.parts, List.append_assoc] at hparts
  obtain ⟨hvariables, hparts⟩ :=
    eq_of_map_append_eq Node.variableDefinition.inj (by simp) (by simp) hparts
  obtain ⟨hdirectives, hparts⟩ := eq_of_map_append_eq Node.directive.inj (by simp) (by simp) hparts
  simp_all [Node.bare]

theorem FragmentDefinition.eq_of_bare_eq {d d' : FragmentDefinition}
    (hbare : (Node.fragmentDefinition d).bare = (Node.fragmentDefinition d').bare)
    (hparts : (Node.fragmentDefinition d).parts = (Node.fragmentDefinition d').parts) :
    d = d' := by
  obtain ⟨name, condition, directives, selections⟩ := d
  obtain ⟨name', condition', directives', selections'⟩ := d'
  obtain ⟨hcondition, hparts⟩ := List.cons.inj hparts
  have hcondition := Name.eq_of_typeNode_eq hcondition
  obtain ⟨hdirectives, hparts⟩ := eq_of_map_append_eq Node.directive.inj (by simp) (by simp) hparts
  simp_all [Node.bare]

/-- A node is what it says by itself and its parts. -/
theorem Node.eq_of_bare_eq {node node' : Node} (hbare : node.bare = node'.bare)
    (hparts : node.parts = node'.parts) : node = node' := by
  cases node <;> cases node' <;> simp only [bare, reduceCtorEq] at hbare
  case document.document =>
    exact congrArg document (congrArg Document.mk (eq_of_map_eq Definition.eq_of_node_eq hparts))
  case schemaDefinition.schemaDefinition =>
    rw [SchemaDefinition.eq_of_bare_eq (by simpa using hbare) hparts]
  case typeDefinition.typeDefinition => rw [TypeDefinition.eq_of_bare_eq hbare hparts]
  case extension.extension => rw [Extension.eq_of_node_eq (List.cons.inj hparts).1]
  case operationDefinition.operationDefinition =>
    rw [OperationDefinition.eq_of_bare_eq hbare hparts]
  case fragmentDefinition.fragmentDefinition =>
    rw [FragmentDefinition.eq_of_bare_eq hbare hparts]
  case fieldDefinition.fieldDefinition => rw [FieldDefinition.eq_of_bare_eq hbare hparts]
  case inputValueDefinition.inputValueDefinition =>
    rw [InputValueDefinition.eq_of_bare_eq hbare hparts]
  case variableDefinition.variableDefinition => rw [VariableDefinition.eq_of_parts_eq hparts]
  case typeRef.typeRef => rw [TypeRef.eq_of_bare_eq (typeRef.inj hbare) hparts]
  case value.value => rw [Value.eq_of_bare_eq (value.inj hbare) hparts]
  case selection.selection => rw [Selection.eq_of_bare_eq (selection.inj hbare) hparts]
  case selectionSet.selectionSet => rw [eq_of_map_eq selection.inj hparts]
  case argument.argument a a' =>
    obtain ⟨name, v⟩ := a
    obtain ⟨name', v'⟩ := a'
    simp_all [parts]
  case objectField.objectField => simp_all [parts]
  case directiveDefinition.directiveDefinition d d' =>
    obtain ⟨description, name, arguments, isRepeatable, locations⟩ := d
    obtain ⟨description', name', arguments', isRepeatable', locations'⟩ := d'
    have harguments := eq_of_map_eq inputValueDefinition.inj hparts
    simp_all
  case enumValueDefinition.enumValueDefinition d d' =>
    obtain ⟨description, name, directives⟩ := d
    obtain ⟨description', name', directives'⟩ := d'
    have hdirectives := eq_of_map_eq directive.inj hparts
    simp_all
  case directive.directive d d' =>
    obtain ⟨name, arguments⟩ := d
    obtain ⟨name', arguments'⟩ := d'
    have harguments := eq_of_map_eq argument.inj hparts
    simp_all

namespace SyntaxTree

theorem events_eq_cons (t : SyntaxTree) :
    t.events = .enter t.root :: (forestEvents t.children ++ [.leave t.root]) := by
  cases t
  rfl

/-- If the events of each of some trees, less the parts of their nodes, tell the root and where the
events end, those of all tell the roots and where they end, as a node is left after them. -/
theorem map_root_eq_of_events {ts ts' : List SyntaxTree}
    (htell : ∀ t ∈ ts, ∀ t' ∈ ts', ∀ rest rest',
      t.events.map Event.bare ++ rest = t'.events.map Event.bare ++ rest' →
        t.root = t'.root ∧ rest = rest') {node node' : Node} {rest rest' : List Event}
    (h : (forestEvents ts).map Event.bare ++ .leave node :: rest =
      (forestEvents ts').map Event.bare ++ .leave node' :: rest') :
    ts.map root = ts'.map root ∧ rest = rest' := by
  induction ts generalizing ts' with
  | nil =>
    cases ts' with
    | nil => exact ⟨rfl, (List.cons.inj h).2⟩
    | cons t' ts' => simp [forestEvents, events_eq_cons, Event.bare] at h
  | cons t ts ih =>
    cases ts' with
    | nil => simp [forestEvents, events_eq_cons, Event.bare] at h
    | cons t' ts' =>
      simp only [forestEvents, List.map_append, List.append_assoc] at h
      obtain ⟨hroot, hrests⟩ := htell t List.mem_cons_self t' List.mem_cons_self _ _ h
      have htell' := fun u hu u' hu' =>
        htell u (List.mem_cons_of_mem t hu) u' (List.mem_cons_of_mem t' hu')
      obtain ⟨hroots, hrest⟩ := ih htell' hrests
      exact ⟨by rw [List.map_cons, List.map_cons, hroot, hroots], hrest⟩

/-- The events tell the root of a tree that branches into the parts of its nodes. -/
theorem IsGrown.root_eq_of_events {t : SyntaxTree} (h : t.IsGrown) :
    ∀ t' : SyntaxTree, t'.IsGrown → ∀ rest rest',
      t.events.map Event.bare ++ rest = t'.events.map Event.bare ++ rest' →
        t.root = t'.root ∧ rest = rest' := by
  induction h with
  | @node root children hparts hchildren ih =>
    rintro ⟨root', children'⟩ h' rest rest' heq
    obtain ⟨hparts', hchildren'⟩ := isGrown_node.1 h'
    simp only [events, List.cons_append, List.map_cons, List.map_append, List.map_nil,
      List.append_assoc, List.nil_append, List.cons.injEq, Event.bare, Event.enter.injEq] at heq
    obtain ⟨hbare, heq⟩ := heq
    obtain ⟨hroots, hrest⟩ :=
      map_root_eq_of_events (fun t ht t' ht' => ih t ht t' (hchildren' t' ht')) heq
    exact ⟨Node.eq_of_bare_eq hbare (hparts.symm.trans (hroots.trans hparts')), hrest⟩

end SyntaxTree

/-- The events of a document show the whole document. -/
theorem Document.eq_of_map_bare_events_eq {d d' : Document}
    (h : d.events.map Event.bare = d'.events.map Event.bare) : d = d' := by
  have hroots := (d.isGrown.root_eq_of_events d'.tree d'.isGrown [] [] (congrArg (· ++ []) h)).1
  exact Node.document.inj hroots

end SchemaReshape
