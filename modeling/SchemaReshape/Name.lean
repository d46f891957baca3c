import SchemaReshape.Sorted.Set

/-!
# Names

What may name a type or a field, which names belong to introspection, and the scalar types that
every schema has without defining them.
-/

namespace SchemaReshape

abbrev Name := String

abbrev NameSet := SortedSet Name

abbrev NameMap (α : Type) := SortedMap Name α

namespace Name

def isStartChar (c : Char) : Bool := c.isAlpha || c = '_'

def isChar (c : Char) : Bool := c.isAlphanum || c = '_'

/-- A letter or underscore, then letters, digits and underscores, all of them ASCII. -/
def isLegal (n : Name) : Bool :=
  match n.toList with
  | [] => false
  | c :: cs => isStartChar c && cs.all isChar

/-- Two underscores at the front reserve a name for introspection. -/
def isReserved (n : Name) : Bool := ['_', '_'].isPrefixOf n.toList

def isTypeName (n : Name) : Bool := n.isLegal && !n.isReserved

def builtinScalars : List Name := ["Boolean", "Float", "ID", "Int", "String"]

def isBuiltinScalar (n : Name) : Bool := builtinScalars.contains n

end Name

inductive IdentifierFault where
  | empty
  | illegalCharacters (characters : SortedSet Char)
  | custom (reason : String)
  deriving DecidableEq

/-- The label of a schema is a nonempty text of ASCII letters, digits and underscores; unlike a
name it may start with a digit. -/
def checkIdentifier (identifier : String) : Except IdentifierFault Unit :=
  let illegal := identifier.toList.filter fun c => !Name.isChar c
  if identifier.isEmpty then throw .empty
  else if illegal.isEmpty then pure ()
  else throw (.illegalCharacters (.ofList illegal))

end SchemaReshape
