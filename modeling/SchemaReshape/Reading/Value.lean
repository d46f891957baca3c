import SchemaReshape.Catalogue
import SchemaReshape.Reading.Lexeme

/-!
# Types, values and directives

What documents of both kinds are made of. A constant is a value without variables.
-/

namespace SchemaReshape

namespace Grammar

open Reader

def typeRef : Grammar Parsed.TypeRef :=
  let step (self : Unit → Grammar Parsed.TypeRef) (_ : Unit) : Grammar Parsed.TypeRef := do
    let type ← (Parsed.TypeRef.named <$> bareName) <|> do
      literal "["
      let inner ← self ()
      literal "]"
      return .list inner
    return type (← orNone (literal "!")).isNone
  lexeme (fix step ())

/-- A variable, which may have a gap after its sign. -/
def variableName : Grammar Name := do
  symbol "$"
  name

def booleanWord : Grammar Bool :=
  ((fun _ => true) <$> literal "true") <|> ((fun _ => false) <$> literal "false")

def nullWord : Grammar Unit := literal "null"

/-- A name that does not begin with a word for a boolean or the null value. -/
def enumName : Grammar Name := lexeme do
  absent booleanWord
  absent nullWord
  bareName

section Values

variable (constant : Bool)

def variableValue : Grammar (Parsed.Value constant) :=
  if h : constant = false then (.var · h) <$> variableName else failure

variable {constant} in
/-- The fields of an object: a repeated key stays in its first place with its last value. -/
def objectValue (fields : List (Name × Parsed.Value constant)) : Parsed.Value constant :=
  .object (Catalogue.ofList fields).toList

def value : Grammar (Parsed.Value constant) :=
  let step (self : Unit → Grammar (Parsed.Value constant)) (_ : Unit) :
      Grammar (Parsed.Value constant) :=
    variableValue constant
      <|> number
      <|> (.string <$> string)
      <|> (.boolean <$> lexeme booleanWord)
      <|> ((fun _ => .null) <$> lexeme nullWord)
      <|> (.enum <$> enumName)
      <|> (do
        symbol "["
        let values ← many (self ())
        symbol "]"
        return .list values)
      <|> do
        symbol "\x7b"
        let fields ← many do
          let key ← name
          symbol ":"
          return (key, ← self ())
        symbol "\x7d"
        return objectValue fields
  fix step ()

def argument : Grammar (Name × Parsed.Value constant) := do
  let name ← name
  symbol ":"
  return (name, ← value constant)

def between {α : Type} (left right : String) (p : Grammar α) : Grammar α := do
  symbol left
  let a ← p
  symbol right
  return a

def arguments : Grammar (List (Name × Parsed.Value constant)) :=
  between "(" ")" (many1 (argument constant))

def directive : Grammar (Parsed.Directive constant) := do
  symbol "@"
  let name ← name
  return ⟨name, ← orEmpty (arguments constant)⟩

def directives : Grammar (List (Parsed.Directive constant)) := many1 (directive constant)

end Values

def defaultValue : Grammar (Parsed.Value true) := do
  symbol "="
  value true

def operationKind : Grammar OperationKind :=
  ((fun _ => .query) <$> symbol "query")
    <|> ((fun _ => .mutation) <$> symbol "mutation")
    <|> ((fun _ => .subscription) <$> symbol "subscription")

end Grammar

end SchemaReshape
