import SchemaReshape.Document.Basic
import SchemaReshape.Reading.Value

/-!
# Schema documents

The definitions and extensions of a type system. `Document.readSchema` reads a whole document.
-/

namespace SchemaReshape

namespace Grammar

open Reader

def constDirectives : Grammar (List Directive) :=
  List.map Parsed.Directive.toDirective <$> directives true

def type : Grammar TypeRef := Parsed.TypeRef.toTypeRef <$> typeRef

def inputValueDefinition : Grammar InputValueDefinition := do
  let description ← orNone string
  let name ← name
  symbol ":"
  let type ← type
  let default ← orNone (Parsed.Value.toValue <$> defaultValue)
  return ⟨description, name, type, default, ← orEmpty constDirectives⟩

def argumentsDefinition : Grammar (List InputValueDefinition) :=
  between "(" ")" (many1 inputValueDefinition)

def inputFieldsDefinition : Grammar (List InputValueDefinition) :=
  between "\x7b" "\x7d" (many1 inputValueDefinition)

def fieldDefinition : Grammar FieldDefinition := do
  let description ← orNone string
  let name ← name
  let arguments ← orEmpty argumentsDefinition
  symbol ":"
  let type ← type
  return ⟨description, name, arguments, type, ← orEmpty constDirectives⟩

def fieldsDefinition : Grammar (List FieldDefinition) :=
  between "\x7b" "\x7d" (many1 fieldDefinition)

def enumValueDefinition : Grammar EnumValueDefinition := do
  let description ← orNone string
  let name ← enumName
  return ⟨description, name, ← orEmpty constDirectives⟩

def enumValuesDefinition : Grammar (List EnumValueDefinition) :=
  between "\x7b" "\x7d" (many1 enumValueDefinition)

/-- Items with a mark between them and, if one likes, before them. -/
def separated {α : Type} (mark : String) (item : Grammar α) : Grammar (List α) := do
  let _ ← orNone (symbol mark)
  let first ← item
  return first :: (← many do
    symbol mark
    item)

def implementsInterfaces : Grammar (List Name) := do
  symbol "implements"
  separated "&" name

def unionMembers : Grammar (List Name) := do
  symbol "="
  separated "|" name

/-- The directives of a definition and its content, either of which may be missing. -/
def contentOrNone {α : Type} (content : Grammar (List α)) : Grammar (List Directive × List α) := do
  let applied ← orEmpty constDirectives
  return (applied, ← orEmpty content)

/-- The directives of an extension and its content, not both of them missing. -/
def addedContent {α : Type} (content : Grammar (List α)) : Grammar (List Directive × List α) :=
  (do
    let applied ← orEmpty constDirectives
    return (applied, ← content))
  <|> ((fun applied => (applied, [])) <$> constDirectives)

abbrev TypeRest := Grammar (List Directive × TypeBody)

/-- How one kind of type is written: its keyword, and what follows the name in a definition and in
an extension. -/
structure TypeForm where
  keyword : String
  defined : TypeRest
  added : TypeRest

def scalarForm : TypeForm where
  keyword := "scalar"
  defined := return (← orEmpty constDirectives, .scalar)
  added := return (← constDirectives, .scalar)

def objectForm : TypeForm where
  keyword := "type"
  defined := do
    let interfaces ← orEmpty implementsInterfaces
    let (applied, fields) ← contentOrNone fieldsDefinition
    return (applied, .object interfaces fields)
  added :=
    (do
      let interfaces ← orEmpty implementsInterfaces
      let (applied, fields) ← addedContent fieldsDefinition
      return (applied, .object interfaces fields))
    <|> ((fun interfaces => ([], .object interfaces [])) <$> implementsInterfaces)

def interfaceForm : TypeForm where
  keyword := "interface"
  defined := do
    let interfaces ← orEmpty implementsInterfaces
    let (applied, fields) ← contentOrNone fieldsDefinition
    return (applied, .interface interfaces fields)
  added := do
    let interfaces ← orEmpty implementsInterfaces
    let (applied, fields) ← addedContent fieldsDefinition
    return (applied, .interface interfaces fields)

def listForm {α : Type} (keyword : String) (content : Grammar (List α))
    (body : List α → TypeBody) : TypeForm where
  keyword := keyword
  defined := (fun r => (r.1, body r.2)) <$> contentOrNone content
  added := (fun r => (r.1, body r.2)) <$> addedContent content

def typeForms : List TypeForm :=
  [scalarForm, objectForm, interfaceForm, listForm "union" unionMembers .union,
    listForm "enum" enumValuesDefinition .enum,
    listForm "input" inputFieldsDefinition .inputObject]

def typeDefinition (form : TypeForm) : Grammar Definition := do
  let description ← orNone string
  symbol form.keyword
  let name ← name
  let (applied, body) ← form.defined
  return .type ⟨description, name, applied, body⟩

def typeExtension (form : TypeForm) : Grammar Definition := do
  symbol "extend"
  symbol form.keyword
  let name ← name
  let (applied, body) ← form.added
  return .extension (.type ⟨none, name, applied, body⟩)

def firstOf {α : Type} (readers : List (Grammar α)) : Grammar α :=
  readers.foldr (fun p q => p <|> q) failure

def rootDefinition : Grammar (OperationKind × Name) := do
  let kind ← operationKind
  symbol ":"
  return (kind, ← name)

/-- Root types one after the other. A second one of a kind is noted. -/
def collectRoots (roots : RootTypes) : List (OperationKind × Name) → Grammar RootTypes
  | [] => return roots
  | (kind, name) :: rest => do
    if (roots.get? kind).isSome then note (.repeatedRoot kind)
    collectRoots (roots.set kind name) rest

def rootTypes : Grammar RootTypes := do
  collectRoots ∅ (← between "\x7b" "\x7d" (many1 rootDefinition))

/-- A schema definition, which is noted if it names no query root. -/
def schemaDefinition : Grammar Definition := do
  symbol "schema"
  let applied ← orEmpty constDirectives
  let roots ← rootTypes
  if roots.query?.isNone then note .noQueryRoot
  return .schema ⟨applied, roots⟩

def schemaExtension : Grammar Definition := do
  symbol "extend"
  symbol "schema"
  let added ←
    (do
      let applied ← orEmpty constDirectives
      return ⟨applied, ← rootTypes⟩)
    <|> ((fun applied => ⟨applied, ∅⟩) <$> constDirectives)
  return .extension (.schema added)

/-- The places where a directive may be applied. A place comes before those that begin its name. -/
def directiveLocations : List Name :=
  ["QUERY", "MUTATION", "SUBSCRIPTION", "FIELD_DEFINITION", "FIELD", "FRAGMENT_DEFINITION",
    "FRAGMENT_SPREAD", "INLINE_FRAGMENT", "VARIABLE_DEFINITION", "SCHEMA", "SCALAR", "OBJECT",
    "ARGUMENT_DEFINITION", "INTERFACE", "UNION", "ENUM_VALUE", "ENUM", "INPUT_OBJECT",
    "INPUT_FIELD_DEFINITION"]

def directiveLocation : Grammar Name :=
  firstOf (directiveLocations.map fun place => (fun _ => place) <$> symbol place)

/-- A directive definition. Each counts as repeatable, whether the word is there or not. -/
def directiveDefinition : Grammar Definition := do
  let description ← orNone string
  symbol "directive"
  symbol "@"
  let name ← name
  let arguments ← orEmpty argumentsDefinition
  let _ ← orNone (symbol "repeatable")
  symbol "on"
  return .directive ⟨description, name, arguments, true, ← separated "|" directiveLocation⟩

def typeSystemDefinition : Grammar Definition :=
  schemaDefinition <|> schemaExtension
    <|> firstOf (typeForms.map fun form => typeDefinition form <|> typeExtension form)
    <|> directiveDefinition

def schemaDocument : Grammar Document := do
  let definitions ← many1 typeSystemDefinition
  gap
  return ⟨definitions⟩

end Grammar

namespace Document

def readSchema (text : String) : Except SyntaxFault Document :=
  Grammar.schemaDocument.runOn .malformed text

end Document

end SchemaReshape
