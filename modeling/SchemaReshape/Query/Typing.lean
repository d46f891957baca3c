import SchemaReshape.Schema.Basic
import SchemaReshape.Fault.Query

/-!
# Queries against a schema

Every selected field exists on its parent type and carries the arguments that it should, composite
fields are selected from and leaf fields are not, fragments apply where they are spread, and every
variable used in an argument is one of the operation's. The first fault in document order is told.
Directives that the schema does not define are left alone but for the variables in them. What the
check takes for granted is put to an `assume`, which `Assertion.ignore` never looks at.
-/

namespace SchemaReshape

/-- The field that every composite type has and none defines. -/
def Name.typeName : Name := "__typename"

def Argument.unknown? (declared : List InputValueDefinition) (arguments : List Argument) :
    Option Argument :=
  arguments.find? fun a => !declared.any fun d => d.name == a.name

def InputValueDefinition.missing? (declared : List InputValueDefinition)
    (arguments : List Argument) : Option InputValueDefinition :=
  declared.find? fun d => d.isRequired && !arguments.any fun a => a.name == d.name

namespace Value

mutual

/-- The variables used in a value, at any depth and in order. -/
def usedVariables : Value → List Name
  | var name => [name]
  | list values => valuesUsed values
  | object fields => fieldsUsed fields
  | int _ | float _ | string _ | boolean _ | null | enum _ => []

def valuesUsed : List Value → List Name
  | [] => []
  | v :: vs => v.usedVariables ++ valuesUsed vs

def fieldsUsed : List (Name × Value) → List Name
  | [] => []
  | (_, v) :: fs => v.usedVariables ++ fieldsUsed fs

end

end Value

/-- What the check takes for granted where it comes to it: the query type is defined, the base of a
field's type is known, and what is selected on is a type of the schema. -/
inductive Assertion where
  | queryType (name : Name)
  | fieldType (name : Name)
  | parent (type : TypeDefinition)

def Assertion.ignore : Assertion → Except QueryFault Unit := fun _ => pure ()

/-- What the selections of a query are checked against. -/
structure QueryContext where
  schema : Schema
  operationName? : Option Name
  definedVariables : List Name
  fragments : List FragmentDefinition

namespace QueryContext

variable (c : QueryContext)

/-- Of several fragments of a name the last one counts. -/
def fragment? (name : Name) : Option FragmentDefinition := c.fragments.findRev? (·.name == name)

def checkVariables (arguments : List Argument) : Except QueryFault Unit :=
  let used := arguments.flatMap (·.value.usedVariables)
  match used.find? fun v => !c.definedVariables.contains v with
  | none => pure ()
  | some v => throw (.undefinedVariable c.operationName? v)

def checkDirectiveArguments (declared : List InputValueDefinition) (d : Directive) :
    Except QueryFault Unit := do
  if let some a := Argument.unknown? declared d.arguments then
    throw (.unknownDirectiveArgument d.name a.name)
  if let some a := InputValueDefinition.missing? declared d.arguments then
    throw (.missingDirectiveArgument d.name a.name a.type)

def checkDirective (d : Directive) : Except QueryFault Unit := do
  if let some definition := c.schema.directive? d.name then
    checkDirectiveArguments definition.arguments d
  c.checkVariables d.arguments

def checkDirectives (directives : List Directive) : Except QueryFault Unit :=
  directives.forM c.checkDirective

def checkFieldArguments (parent : TypeDefinition) (definition : FieldDefinition)
    (head : FieldHead) : Except QueryFault Unit := do
  if let some a := Argument.unknown? definition.arguments head.arguments then
    throw (.unknownFieldArgument parent.name head.name a.name)
  if let some a := InputValueDefinition.missing? definition.arguments head.arguments then
    throw (.missingFieldArgument parent.name head.name a.name a.type)
  c.checkVariables head.arguments

def conditionType (name : Name) : Except QueryFault TypeDefinition :=
  match c.schema.type? name with
  | none => throw (.unknownType name)
  | some d => if d.isComposite then pure d else throw (.conditionNotComposite name)

/-- Whether some object type is a possible type of both. -/
def overlaps (parent condition : TypeDefinition) : Bool :=
  (c.schema.possibleTypes parent.name).meets (c.schema.possibleTypes condition.name)

/-- The type that an inline fragment narrows its parent to. -/
def inlineType (parent : TypeDefinition) : Option Name → Except QueryFault TypeDefinition
  | none => pure parent
  | some name => do
    let condition ← c.conditionType name
    if c.overlaps parent condition then pure condition
    else throw (.disjointInlineFragment parent.name condition.name)

def checkSpread (parent : TypeDefinition) (name : Name) : Except QueryFault Unit := do
  match c.fragment? name with
  | none => throw (.unknownFragment name)
  | some fragment =>
    let condition ← c.conditionType fragment.condition
    if c.overlaps parent condition then pure ()
    else throw (.disjointSpread name parent.name condition.name)

section Assuming

variable (assume : Assertion → Except QueryFault Unit)

/-- The type to select from below a field, or none if there is nothing to select below it. -/
def scopeTypeAssuming? (definition : FieldDefinition) :
    Except QueryFault (Option TypeDefinition) := do
  let name := definition.type.baseName
  assume (.fieldType name)
  match c.schema.type? name with
  | some d => pure (if d.isComposite then some d else none)
  | none => if c.schema.isDefined name then pure none else throw (.unknownType name)

mutual

def checkSelectionAssuming (parent : TypeDefinition) : Selection → Except QueryFault Unit
  | .field head selections => do
    c.checkDirectives head.directives
    if head.name == Name.typeName then
      if selections.isEmpty then pure () else throw .selectionBelowTypeName
    else
      match parent.field? head.name with
      | none => throw (.unknownField parent.name head.name)
      | some definition =>
        c.checkFieldArguments parent definition head
        match (← c.scopeTypeAssuming? assume definition) with
        | some type =>
          if selections.isEmpty then throw (.selectionMissing head.name definition.type)
          else checkScopeAssuming type selections
        | none =>
          if selections.isEmpty then pure ()
          else throw (.selectionOnLeaf head.name definition.type)
  | .fragmentSpread name directives => do
    c.checkDirectives directives
    c.checkSpread parent name
  | .inlineFragment condition? directives selections => do
    c.checkDirectives directives
    checkScopeAssuming (← c.inlineType parent condition?) selections

def checkScopeAssuming (parent : TypeDefinition) : List Selection → Except QueryFault Unit
  | [] => assume (.parent parent)
  | s :: ss => do
    assume (.parent parent)
    checkSelectionAssuming parent s
    checkScopeAssuming parent ss

end

def checkFragmentAssuming (fragment : FragmentDefinition) : Except QueryFault Unit := do
  let parent ← c.conditionType fragment.condition
  c.checkDirectives fragment.directives
  c.checkScopeAssuming assume parent fragment.selections

end Assuming

def scopeType? : FieldDefinition → Except QueryFault (Option TypeDefinition) :=
  c.scopeTypeAssuming? Assertion.ignore

def checkSelection : TypeDefinition → Selection → Except QueryFault Unit :=
  c.checkSelectionAssuming Assertion.ignore

def checkScope : TypeDefinition → List Selection → Except QueryFault Unit :=
  c.checkScopeAssuming Assertion.ignore

def checkFragment : FragmentDefinition → Except QueryFault Unit :=
  c.checkFragmentAssuming Assertion.ignore

/-- The names of the fragments that the selections of an operation or fragment spread. -/
def spreads (operation : OperationDefinition) : List Name :=
  Selection.scopeSpreads operation.selections ++
    c.fragments.flatMap fun fragment => Selection.scopeSpreads fragment.selections

end QueryContext

namespace Schema

variable (s : Schema)

def queryContext (query : Document) (operation : OperationDefinition) : QueryContext where
  schema := s
  operationName? := operation.name?
  definedVariables := operation.variableDefinitions.map (·.name)
  fragments := query.fragments

section Assuming

variable (assume : Assertion → Except QueryFault Unit)

/-- The operation, every fragment definition and then that each fragment is used. -/
def checkOperationAssuming (query : Document) (operation : OperationDefinition) :
    Except QueryFault Unit := do
  let c := s.queryContext query operation
  assume (.queryType s.queryType)
  match s.queryDefinition? with
  | none => throw (.queryTypeUndefined s.queryType)
  | some parent =>
    c.checkDirectives operation.directives
    c.checkScopeAssuming assume parent operation.selections
    query.fragments.forM (c.checkFragmentAssuming assume)
    match query.fragments.find? fun f => !(c.spreads operation).contains f.name with
    | none => pure ()
    | some unused => throw (.unusedFragment unused.name)

/-- A valid query has one operation, which is a query. -/
def checkQueryAssuming (query : Document) : Except QueryFault Unit :=
  match query.operations with
  | [operation] =>
    if operation.kind = .query then s.checkOperationAssuming assume query operation
    else throw (.notQuery operation.kind)
  | operations => throw (.operationCount operations.length)

end Assuming

def checkOperation : Document → OperationDefinition → Except QueryFault Unit :=
  s.checkOperationAssuming Assertion.ignore

def checkQuery : Document → Except QueryFault Unit := s.checkQueryAssuming Assertion.ignore

end Schema

end SchemaReshape
