import SchemaReshape.Query.Typing
import SchemaReshape.Document.Traversal
import SchemaReshape.Settings

/-!
# Splittable queries

A query can be split across backends if every selection scope is a single inline fragment or lists
its property fields before its vertex fields, and every directive is one that a split supports.
-/

namespace SchemaReshape

structure InlineFragment where
  condition? : Option Name
  directives : List Directive
  selections : List Selection
  deriving DecidableEq

namespace Selection

def inlineFragment? : Selection → Option InlineFragment
  | inlineFragment condition? directives selections => some ⟨condition?, directives, selections⟩
  | field .. | fragmentSpread .. => none

def spreadName? : Selection → Option Name
  | fragmentSpread name _ => some name
  | field .. | inlineFragment .. => none

def isField : Selection → Bool
  | field .. => true
  | fragmentSpread .. | inlineFragment .. => false

/-- A field that selects nothing below itself. -/
def isProperty : Selection → Bool
  | field _ selections => selections.isEmpty
  | fragmentSpread .. | inlineFragment .. => false

/-- A field that selects below itself. -/
def isVertex (s : Selection) : Bool := s.isField && !s.isProperty

/-- The inline fragment that a scope consists of, if it has one; it may not have other selections
beside it. -/
def soleInlineFragment? (scope : List Selection) : Except QueryFault (Option InlineFragment) :=
  match scope.filterMap inlineFragment? with
  | [] => pure none
  | [fragment] =>
    if scope.length = 1 then pure (some fragment) else throw (.inlineFragmentNotAlone scope)
  | _ => throw (.severalInlineFragments scope)

def lateProperty? (scope : List Selection) : Option Name :=
  match (scope.dropWhile fun s => !s.isVertex).find? isProperty with
  | some (field head _) => some head.name
  | _ => none

/-- A scope is a single inline fragment, or fields with the property fields first. -/
def checkScope (scope : List Selection) : Except QueryFault Unit := do
  if let some name := scope.findSome? spreadName? then throw (.spreadInScope scope name)
  if (← soleInlineFragment? scope).isNone then
    if let some name := lateProperty? scope then throw (.propertyAfterVertex scope name)

end Selection

def Node.checkSplittable (settings : Settings) : Node → Except QueryFault Unit
  | .directive d =>
    if settings.isSplitDirective d.name then pure ()
    else throw (.unsupportedDirective d.name settings.splitDirectives)
  | .selectionSet scope => Selection.checkScope scope
  | _ => pure ()

def Schema.checkSplittable (s : Schema) (query : Document) (settings : Settings) :
    Except QueryFault Unit := do
  s.checkQuery query
  query.visit (.onEnter (Node.checkSplittable settings))

end SchemaReshape
