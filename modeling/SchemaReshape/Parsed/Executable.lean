import SchemaReshape.Catalogue
import SchemaReshape.Document.Basic
import SchemaReshape.Parsed.Value

/-!
# Query documents as they are parsed

The parser keeps operations and fragments under their names, in no order of its own, or a single
operation without a name. `Executable.toDocument` turns every one of them into a definition and
lists the operations before the fragments, both in the order of their names.
-/

namespace SchemaReshape.Parsed

structure VariableDefinition where
  name : Name
  type : TypeRef
  directives : List (Directive false)
  default? : Option (Value true)

inductive Selection where
  | field (alias? : Option Name) (name : Name) (arguments : List (Name × Value false))
      (directives : List (Directive false)) (selections : List Selection)
  | fragmentSpread (name : Name) (directives : List (Directive false))
  | inlineFragment (condition? : Option Name) (directives : List (Directive false))
      (selections : List Selection)

/-- An operation apart from its name. -/
structure Operation where
  kind : OperationKind
  variableDefinitions : List VariableDefinition
  directives : List (Directive false)
  selections : List Selection

/-- A fragment apart from its name. -/
structure Fragment where
  condition : Name
  directives : List (Directive false)
  selections : List Selection

inductive Operations where
  | single (operation : Operation)
  | multiple (operations : Catalogue Operation)

structure Executable where
  operations : Operations
  fragments : Catalogue Fragment

def VariableDefinition.toDefinition (v : VariableDefinition) :
    SchemaReshape.VariableDefinition where
  name := v.name
  type := v.type.toTypeRef
  default := v.default?.map Value.toValue
  directives := v.directives.map Directive.toDirective

mutual

def Selection.toSelection : Selection → SchemaReshape.Selection
  | .field alias? name arguments directives selections =>
    .field ⟨alias?, name, arguments.map toArgument, directives.map Directive.toDirective⟩
      (Selection.toScope selections)
  | .fragmentSpread name directives =>
    .fragmentSpread name (directives.map Directive.toDirective)
  | .inlineFragment condition? directives selections =>
    .inlineFragment condition? (directives.map Directive.toDirective)
      (Selection.toScope selections)

def Selection.toScope : List Selection → List SchemaReshape.Selection
  | [] => []
  | s :: ss => s.toSelection :: Selection.toScope ss

end

def Operation.toDefinition (name? : Option Name) (o : Operation) : OperationDefinition where
  kind := o.kind
  name? := name?
  variableDefinitions := o.variableDefinitions.map VariableDefinition.toDefinition
  directives := o.directives.map Directive.toDirective
  selections := Selection.toScope o.selections

def Fragment.toDefinition (name : Name) (f : Fragment) : FragmentDefinition where
  name := name
  condition := f.condition
  directives := f.directives.map Directive.toDirective
  selections := Selection.toScope f.selections

def Operations.entries : Operations → List (Option Name × Operation)
  | single operation => [(none, operation)]
  | multiple operations => operations.toList.map fun e => (some e.1, e.2)

/-- Sorts entries by their keys; those with the same key stay as they are. -/
def inOrder {κ α : Type} [Ord κ] (entries : List (κ × α)) : List (κ × α) :=
  entries.mergeSort fun e e' => (compare e.1 e'.1).isLE

def Executable.toDocument (e : Executable) : Document where
  definitions :=
    (inOrder e.operations.entries).map (fun o => .operation (o.2.toDefinition o.1)) ++
      (inOrder e.fragments.toList).map fun f => .fragment (f.2.toDefinition f.1)

end SchemaReshape.Parsed
