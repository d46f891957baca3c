import SchemaReshape.Document.TypeSystem
import SchemaReshape.Text.Lossy

/-!
# Values and types as they are parsed

The parser has types of its own for what documents are made of. Each is turned into a value, type
reference or directive of a document part by part.
-/

namespace SchemaReshape.Parsed

/-- A number, which is either whole or a floating-point number. -/
structure Number where
  isFloat : Bool
  text : String

/-- A value; a constant holds no variables. -/
inductive Value (constant : Bool) where
  | var (name : Name) (allowed : constant = false)
  | null
  | number (number : Number)
  | string (text : String)
  | boolean (value : Bool)
  | binary (bytes : List UInt8)
  | enum (name : Name)
  | list (values : List (Value constant))
  | object (fields : List (Name × Value constant))

/-- A type, which says of itself and of every type inside a list whether it admits null. -/
inductive TypeRef where
  | named (name : Name) (nullable : Bool)
  | list (inner : TypeRef) (nullable : Bool)

structure Directive (constant : Bool) where
  name : Name
  arguments : List (Name × Value constant)

def Number.toValue (n : Number) : SchemaReshape.Value :=
  if n.isFloat then .float n.text else .int n.text

section Values

variable {constant : Bool}

mutual

def Value.toValue : Value constant → SchemaReshape.Value
  | .var name _ => .var name
  | .null => .null
  | .number n => n.toValue
  | .string text => .string text
  | .boolean value => .boolean value
  | .binary bytes => .string (Text.lossy bytes)
  | .enum name => .enum name
  | .list values => .list (Value.toValues values)
  | .object fields => .object (Value.toFields fields)

def Value.toValues : List (Value constant) → List SchemaReshape.Value
  | [] => []
  | v :: vs => v.toValue :: Value.toValues vs

def Value.toFields : List (Name × Value constant) → List (Name × SchemaReshape.Value)
  | [] => []
  | (name, v) :: fields => (name, v.toValue) :: Value.toFields fields

end

def toArgument (a : Name × Value constant) : Argument := ⟨a.1, a.2.toValue⟩

def Directive.toDirective (d : Directive constant) : SchemaReshape.Directive :=
  ⟨d.name, d.arguments.map toArgument⟩

end Values

def TypeRef.toTypeRef : TypeRef → SchemaReshape.TypeRef
  | named name nullable => wrap nullable (.named name)
  | list inner nullable => wrap nullable (.list inner.toTypeRef)
where
  wrap (nullable : Bool) (base : SchemaReshape.TypeRef) : SchemaReshape.TypeRef :=
    if nullable then base else .nonNull base

end SchemaReshape.Parsed
