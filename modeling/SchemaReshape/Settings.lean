import SchemaReshape.Name

/-!
# Settings

What the host of a schema adds to the rules of the language: scalars that count as built in, and
the directives with which a query can still be split.
-/

namespace SchemaReshape

structure Settings where
  extraBuiltinScalars : NameSet
  splitDirectives : NameSet
  deriving DecidableEq

namespace Settings

def standard : Settings := ⟨∅, .ofList ["filter", "output", "optional"]⟩

instance : Inhabited Settings := ⟨standard⟩

def addBuiltinScalar (s : Settings) (name : Name) : Settings :=
  { s with extraBuiltinScalars := s.extraBuiltinScalars.insert name }

/-- A scalar of the language, or one that the host counts as built in. -/
def isBuiltinScalar (s : Settings) (name : Name) : Bool :=
  name.isBuiltinScalar || s.extraBuiltinScalars.contains name

def isSplitDirective (s : Settings) (name : Name) : Bool := s.splitDirectives.contains name

end Settings

end SchemaReshape
