import SchemaReshape.Fault.Syntax
import SchemaReshape.Document.Selection

/-!
# Why a query is refused

The faults of a query against its schema, and those of a valid query that cannot be split, each
with the names that it is about and the sentence that tells of it.
-/

namespace SchemaReshape

namespace Selection

def label : Selection → String
  | field head _ => head.responseName
  | fragmentSpread name _ => "..." ++ name
  | inlineFragment (some condition) _ _ => "... on " ++ condition
  | inlineFragment none _ _ => "..."

def scopeLabel (selections : List Selection) : String :=
  "[" ++ String.intercalate ", " (selections.map label) ++ "]"

end Selection

inductive QueryFault where
  | unreadable (fault : SyntaxFault)
  | operationCount (count : Nat)
  | notQuery (kind : OperationKind)
  | queryTypeUndefined (name : Name)
  | unusedFragment (name : Name)
  | unknownFragment (name : Name)
  | unknownType (name : Name)
  | conditionNotComposite (name : Name)
  | disjointInlineFragment (parent condition : Name)
  | disjointSpread (fragment parent condition : Name)
  | unknownField (parent field : Name)
  | selectionBelowTypeName
  | selectionMissing (field : Name) (type : TypeRef)
  | selectionOnLeaf (field : Name) (type : TypeRef)
  | unknownFieldArgument (parent field argument : Name)
  | missingFieldArgument (parent field argument : Name) (type : TypeRef)
  | unknownDirectiveArgument (directive argument : Name)
  | missingDirectiveArgument (directive argument : Name) (type : TypeRef)
  | undefinedVariable (operation? : Option Name) (name : Name)
  | unsupportedDirective (name : Name) (supported : NameSet)
  | spreadInScope (scope : List Selection) (fragment : Name)
  | severalInlineFragments (scope : List Selection)
  | inlineFragmentNotAlone (scope : List Selection)
  | propertyAfterVertex (scope : List Selection) (field : Name)
  | custom (message : String)
  deriving DecidableEq

namespace QueryFault

def message : QueryFault → String
  | unreadable fault => "Query could not be parsed: " ++ fault.message
  | operationCount count => s!"The query must contain exactly one operation, found {count}."
  | notQuery kind =>
    "Only query operations are supported, found a " ++ kind.text ++ " operation."
  | queryTypeUndefined name => s!"The schema's query type \"{name}\" is not defined."
  | unusedFragment name => s!"Fragment \"{name}\" is never used."
  | unknownFragment name => s!"Unknown fragment \"{name}\"."
  | unknownType name => s!"Unknown type \"{name}\"."
  | conditionNotComposite name =>
    s!"Fragment cannot condition on non composite type \"{name}\"."
  | disjointInlineFragment parent condition =>
    s!"Fragment cannot be spread here as objects of type \"{parent}\" can never be of type " ++
      s!"\"{condition}\"."
  | disjointSpread fragment parent condition =>
    s!"Fragment \"{fragment}\" cannot be spread here as objects of type \"{parent}\" can never " ++
      s!"be of type \"{condition}\"."
  | unknownField parent field => s!"Cannot query field \"{field}\" on type \"{parent}\"."
  | selectionBelowTypeName =>
    "Field \"__typename\" must not have a selection since type \"String\" has no subfields."
  | selectionMissing field type =>
    s!"Field \"{field}\" of type \"" ++ type.text ++ "\" must have a selection of subfields."
  | selectionOnLeaf field type =>
    s!"Field \"{field}\" must not have a selection since type \"" ++ type.text ++
      "\" has no subfields."
  | unknownFieldArgument parent field argument =>
    s!"Unknown argument \"{argument}\" on field \"{parent}.{field}\"."
  | missingFieldArgument parent field argument type =>
    s!"Field \"{parent}.{field}\" argument \"{argument}\" of type \"" ++ type.text ++
      "\" is required, but it was not provided."
  | unknownDirectiveArgument directive argument =>
    s!"Unknown argument \"{argument}\" on directive \"@{directive}\"."
  | missingDirectiveArgument directive argument type =>
    s!"Directive \"@{directive}\" argument \"{argument}\" of type \"" ++ type.text ++
      "\" is required, but it was not provided."
  | undefinedVariable (some operation) name =>
    s!"Variable \"${name}\" is not defined by operation \"{operation}\"."
  | undefinedVariable none name => s!"Variable \"${name}\" is not defined."
  | unsupportedDirective name supported =>
    let list := String.intercalate ", " (supported.toList.map fun n => "\"" ++ n ++ "\"")
    s!"Directive \"{name}\" is not yet supported, only {list} are currently supported."
  | spreadInScope scope fragment =>
    "Fragments (not to be confused with inline fragments) are not supported. However, the " ++
      "selections " ++ Selection.scopeLabel scope ++
      s!" contain a spread of the fragment {fragment}."
  | severalInlineFragments scope =>
    "The selections " ++ Selection.scopeLabel scope ++
      " contain multiple inline fragments, which is not allowed."
  | inlineFragmentNotAlone scope =>
    "The selections " ++ Selection.scopeLabel scope ++
      " contain both inline fragments and fields, which may not coexist in one selection."
  | propertyAfterVertex scope field =>
    "In the selections " ++ Selection.scopeLabel scope ++ s!", the property field {field} " ++
      "occurs after a vertex field or a type coercion statement, which is not allowed, as all " ++
      "property fields must appear before all vertex fields."
  | custom message => message

end QueryFault

end SchemaReshape
