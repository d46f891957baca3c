import SchemaReshape.Parsed.Executable
import SchemaReshape.Reading.Value

/-!
# Query documents

Operations and fragments. Names are distinct among the operations and among the fragments, and an
operation without a name is the only one. `Document.readQuery` reads a whole document.
-/

namespace SchemaReshape

namespace Grammar

open Reader

def maxDepth : Nat := 65

def variableDefinition : Grammar Parsed.VariableDefinition := do
  let name ← variableName
  symbol ":"
  let type ← typeRef
  let applied ← orEmpty (directives false)
  return ⟨name, type, applied, ← orNone defaultValue⟩

def variableDefinitions : Grammar (List Parsed.VariableDefinition) :=
  between "(" ")" (many variableDefinition)

/-- The type that a fragment applies to. Blanks, but no comment, come after the keyword. -/
def typeCondition : Grammar Name := lexeme do
  literal "on"
  let _ ← run1 isBlank
  bareName

def fieldAlias : Grammar Name := do
  let name ← name
  symbol ":"
  return name

def field (scope : Grammar (List Parsed.Selection)) : Grammar Parsed.Selection := do
  let alias? ← orNone fieldAlias
  let name ← name
  let arguments ← orEmpty (arguments false)
  let applied ← orEmpty (directives false)
  return .field alias? name arguments applied (← orEmpty scope)

def inlineFragment (scope : Grammar (List Parsed.Selection)) : Grammar Parsed.Selection := do
  symbol "..."
  let condition? ← orNone typeCondition
  let applied ← orEmpty (directives false)
  return .inlineFragment condition? applied (← scope)

def fragmentSpread : Grammar Parsed.Selection := do
  symbol "..."
  absent typeCondition
  let name ← name
  return .fragmentSpread name (← orEmpty (directives false))

def selection (scope : Grammar (List Parsed.Selection)) : Grammar Parsed.Selection :=
  field scope <|> inlineFragment scope <|> fragmentSpread

/-- A scope at a depth. One that is nested too deep is noted. -/
def selectionScope : Grammar (List Parsed.Selection) :=
  let step (self : Nat → Grammar (List Parsed.Selection)) (depth : Nat) :
      Grammar (List Parsed.Selection) := do
    symbol "\x7b"
    if maxDepth < depth then note .nestedTooDeep
    let selections ← many1 (selection (self (depth + 1)))
    symbol "\x7d"
    return selections
  fix step 1

def operation : Grammar (Option Name × Parsed.Operation) := do
  let kind ← operationKind
  let name? ← orNone name
  let defined ← orEmpty variableDefinitions
  let applied ← orEmpty (directives false)
  return (name?, ⟨kind, defined, applied, ← selectionScope⟩)

/-- A query that is only its selections. -/
def bareQuery : Grammar (Option Name × Parsed.Operation) := do
  return (none, ⟨.query, [], [], ← selectionScope⟩)

def fragment : Grammar (Name × Parsed.Fragment) := do
  symbol "fragment"
  let name ← name
  let condition ← typeCondition
  let applied ← orEmpty (directives false)
  return (name, ⟨condition, applied, ← selectionScope⟩)

abbrev Item := (Option Name × Parsed.Operation) ⊕ (Name × Parsed.Fragment)

def items : Grammar (List Item) := do
  let items ← many1 ((.inl <$> (operation <|> bareQuery)) <|> (.inr <$> fragment))
  gap
  return items

end Grammar

namespace Parsed

/-- An operation without a name has to be the only operation, and names are distinct. -/
def addOperation (operations? : Option Operations) (name? : Option Name) (o : Operation) :
    Except SyntaxFault Operations :=
  match operations?, name? with
  | none, none => pure (.single o)
  | none, some name => pure (.multiple (Catalogue.insert ∅ name o))
  | some (.multiple operations), some name =>
    if (operations.get? name).isSome then throw (.repeatedOperation name)
    else pure (.multiple (operations.insert name o))
  | some (.single _), some _ | some _, none => throw .multipleOperations

def addFragment (fragments : Catalogue Fragment) (name : Name) (f : Fragment) :
    Except SyntaxFault (Catalogue Fragment) :=
  if (fragments.get? name).isSome then throw (.repeatedFragment name)
  else pure (fragments.insert name f)

def Executable.ofItems (items : List Grammar.Item) : Except SyntaxFault Executable := do
  let (operations?, fragments) ← items.foldlM (fun e item =>
    match item with
    | .inl (name?, o) => do return (some (← addOperation e.1 name? o), e.2)
    | .inr (name, f) => do return (e.1, ← addFragment e.2 name f)) (none, ∅)
  match operations? with
  | none => throw .noOperation
  | some operations => return ⟨operations, fragments⟩

end Parsed

namespace Document

/-- The query document that a text is. -/
def readQuery (text : String) : Except SyntaxFault Document := do
  let items ← Grammar.items.runOn .malformed text
  return (← Parsed.Executable.ofItems items).toDocument

end Document

end SchemaReshape
