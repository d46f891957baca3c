import SchemaReshape.Document.TypeSystem

/-!
# Operations and fragments

What a query selects. A selection scope is the list of the selections under one pair of braces; a
field that selects nothing below itself has the empty scope.
-/

namespace SchemaReshape

/-- A selected field, apart from what is selected below it. -/
structure FieldHead where
  responseName? : Option Name
  name : Name
  arguments : List Argument
  directives : List Directive
  deriving DecidableEq, Repr

/-- The name of the field in the answer to the query. -/
def FieldHead.responseName (f : FieldHead) : Name := f.responseName?.getD f.name

inductive Selection where
  | field (head : FieldHead) (selections : List Selection)
  | fragmentSpread (name : Name) (directives : List Directive)
  | inlineFragment (condition? : Option Name) (directives : List Directive)
      (selections : List Selection)
  deriving Repr, Inhabited

namespace Selection

mutual

/-- Whether two selections are written alike. -/
def sameAs : Selection → Selection → Bool
  | field h ss, field h' ss' => h == h' && sameScope ss ss'
  | fragmentSpread n ds, fragmentSpread n' ds' => n == n' && ds == ds'
  | inlineFragment c ds ss, inlineFragment c' ds' ss' => c == c' && ds == ds' && sameScope ss ss'
  | _, _ => false

def sameScope : List Selection → List Selection → Bool
  | [], [] => true
  | s :: ss, s' :: ss' => s.sameAs s' && sameScope ss ss'
  | _, _ => false

end

mutual

theorem sameAs_iff : ∀ s t : Selection, s.sameAs t = true ↔ s = t
  | field h ss, t => by
    cases t <;> simp [sameAs, sameScope_iff ss]
  | fragmentSpread n ds, t => by
    cases t <;> simp [sameAs]
  | inlineFragment c ds ss, t => by
    cases t <;> simp [sameAs, sameScope_iff ss, and_assoc]

theorem sameScope_iff : ∀ ss ts : List Selection, sameScope ss ts = true ↔ ss = ts
  | [], ts => by cases ts <;> simp [sameScope]
  | s :: ss, ts => by
    cases ts <;> simp [sameScope, sameAs_iff s, sameScope_iff ss]

end

instance : DecidableEq Selection := fun s t => decidable_of_iff _ (sameAs_iff s t)

mutual

/-- The names of the fragments spread in the selection, at any depth and in document order. -/
def spreads : Selection → List Name
  | field _ selections | inlineFragment _ _ selections => scopeSpreads selections
  | fragmentSpread name _ => [name]

def scopeSpreads : List Selection → List Name
  | [] => []
  | s :: ss => s.spreads ++ scopeSpreads ss

end

end Selection

structure VariableDefinition where
  name : Name
  type : TypeRef
  default : Option Value
  directives : List Directive
  deriving DecidableEq, Repr

structure OperationDefinition where
  kind : OperationKind
  name? : Option Name
  variableDefinitions : List VariableDefinition
  directives : List Directive
  selections : List Selection
  deriving DecidableEq, Repr

structure FragmentDefinition where
  name : Name
  condition : Name
  directives : List Directive
  selections : List Selection
  deriving DecidableEq, Repr

end SchemaReshape
