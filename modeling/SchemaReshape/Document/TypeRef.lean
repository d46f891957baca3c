import SchemaReshape.Name

/-!
# Type references

A type as a field, argument or variable mentions it: a name under any number of list and non-null
wrappers.
-/

namespace SchemaReshape

inductive TypeRef where
  | named (name : Name)
  | list (inner : TypeRef)
  | nonNull (inner : TypeRef)
  deriving DecidableEq, Repr

namespace TypeRef

/-- The name under all the wrappers. -/
def baseName : TypeRef → Name
  | named name => name
  | list inner | nonNull inner => inner.baseName

def isNonNull : TypeRef → Bool
  | nonNull _ => true
  | named _ | list _ => false

def text : TypeRef → String
  | named name => name
  | list inner => "[" ++ inner.text ++ "]"
  | nonNull inner => inner.text ++ "!"

end TypeRef

end SchemaReshape
