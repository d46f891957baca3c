import SchemaReshape.Document.Basic

/-!
# Nodes

The parts of a document that a traversal meets, each with its kind and, where it has one, its
name. A name that stands for a type is a node of its own, as is each wrapper of a type reference.
-/

namespace SchemaReshape

inductive NodeKind where
  | document
  | schemaDefinition
  | scalarTypeDefinition
  | objectTypeDefinition
  | interfaceTypeDefinition
  | unionTypeDefinition
  | enumTypeDefinition
  | enumValueDefinition
  | inputObjectTypeDefinition
  | inputValueDefinition
  | fieldDefinition
  | typeExtension
  | directiveDefinition
  | namedType
  | listType
  | nonNullType
  | directive
  | argument
  | operationDefinition
  | variableDefinition
  | variableUse
  | selectionSet
  | field
  | fragmentSpread
  | inlineFragment
  | fragmentDefinition
  | intValue
  | floatValue
  | stringValue
  | booleanValue
  | nullValue
  | enumValue
  | listValue
  | objectValue
  | objectField
  deriving DecidableEq, Repr

namespace NodeKind

def text : NodeKind → String
  | document => "Document"
  | schemaDefinition => "SchemaDefinition"
  | scalarTypeDefinition => "ScalarTypeDefinition"
  | objectTypeDefinition => "ObjectTypeDefinition"
  | interfaceTypeDefinition => "InterfaceTypeDefinition"
  | unionTypeDefinition => "UnionTypeDefinition"
  | enumTypeDefinition => "EnumTypeDefinition"
  | enumValueDefinition => "EnumValueDefinition"
  | inputObjectTypeDefinition => "InputObjectTypeDefinition"
  | inputValueDefinition => "InputValueDefinition"
  | fieldDefinition => "FieldDefinition"
  | typeExtension => "TypeExtension"
  | directiveDefinition => "DirectiveDefinition"
  | namedType => "NamedType"
  | listType => "ListType"
  | nonNullType => "NonNullType"
  | directive => "Directive"
  | argument => "Argument"
  | operationDefinition => "OperationDefinition"
  | variableDefinition => "VariableDefinition"
  | variableUse => "Variable"
  | selectionSet => "SelectionSet"
  | field => "Field"
  | fragmentSpread => "FragmentSpread"
  | inlineFragment => "InlineFragment"
  | fragmentDefinition => "FragmentDefinition"
  | intValue => "IntValue"
  | floatValue => "FloatValue"
  | stringValue => "StringValue"
  | booleanValue => "BooleanValue"
  | nullValue => "NullValue"
  | enumValue => "EnumValue"
  | listValue => "ListValue"
  | objectValue => "ObjectValue"
  | objectField => "ObjectField"

end NodeKind

def TypeDefinition.kind (d : TypeDefinition) : NodeKind :=
  match d.body with
  | .scalar => .scalarTypeDefinition
  | .object .. => .objectTypeDefinition
  | .interface .. => .interfaceTypeDefinition
  | .union _ => .unionTypeDefinition
  | .enum _ => .enumTypeDefinition
  | .inputObject _ => .inputObjectTypeDefinition

def TypeRef.kind : TypeRef → NodeKind
  | named _ => .namedType
  | list _ => .listType
  | nonNull _ => .nonNullType

def Value.kind : Value → NodeKind
  | var _ => .variableUse
  | int _ => .intValue
  | float _ => .floatValue
  | string _ => .stringValue
  | boolean _ => .booleanValue
  | null => .nullValue
  | enum _ => .enumValue
  | list _ => .listValue
  | object _ => .objectValue

def Selection.kind : Selection → NodeKind
  | field .. => .field
  | fragmentSpread .. => .fragmentSpread
  | inlineFragment .. => .inlineFragment

/-- A part of a document. A variable, where it is used and where it is defined, is a value. -/
inductive Node where
  | document (document : Document)
  | schemaDefinition (definition : SchemaDefinition)
  | typeDefinition (definition : TypeDefinition)
  | extension (extension : Extension)
  | directiveDefinition (definition : DirectiveDefinition)
  | operationDefinition (definition : OperationDefinition)
  | fragmentDefinition (definition : FragmentDefinition)
  | fieldDefinition (definition : FieldDefinition)
  | inputValueDefinition (definition : InputValueDefinition)
  | enumValueDefinition (definition : EnumValueDefinition)
  | variableDefinition (definition : VariableDefinition)
  | typeRef (type : TypeRef)
  | directive (directive : Directive)
  | argument (argument : Argument)
  | value (value : Value)
  | objectField (name : Name) (value : Value)
  | selectionSet (selections : List Selection)
  | selection (selection : Selection)
  deriving DecidableEq, Repr

namespace Node

def kind : Node → NodeKind
  | document _ => .document
  | schemaDefinition _ => .schemaDefinition
  | typeDefinition d => d.kind
  | extension _ => .typeExtension
  | directiveDefinition _ => .directiveDefinition
  | operationDefinition _ => .operationDefinition
  | fragmentDefinition _ => .fragmentDefinition
  | fieldDefinition _ => .fieldDefinition
  | inputValueDefinition _ => .inputValueDefinition
  | enumValueDefinition _ => .enumValueDefinition
  | variableDefinition _ => .variableDefinition
  | typeRef t => t.kind
  | directive _ => .directive
  | argument _ => .argument
  | value v => v.kind
  | objectField .. => .objectField
  | selectionSet _ => .selectionSet
  | selection s => s.kind

def name? : Node → Option Name
  | typeDefinition d => d.name
  | directiveDefinition d => d.name
  | operationDefinition d => d.name?
  | fragmentDefinition d => d.name
  | fieldDefinition d => d.name
  | inputValueDefinition d => d.name
  | enumValueDefinition d => d.name
  | typeRef (.named name) => name
  | directive d => d.name
  | argument a => a.name
  | value (.var name) => name
  | objectField name _ => name
  | selection (.field head _) => head.name
  | selection (.fragmentSpread name _) => name
  | document _ | schemaDefinition _ | extension _ | variableDefinition _ | typeRef (.list _)
  | typeRef (.nonNull _) | value _ | selectionSet _ | selection (.inlineFragment ..) => none

end Node

end SchemaReshape
