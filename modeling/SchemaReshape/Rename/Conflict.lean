import SchemaReshape.Schema.Basic
import SchemaReshape.Plan
import SchemaReshape.Settings
import SchemaReshape.Text.Quoted

/-!
# Name conflicts of a renaming

A renaming conflicts where it gives several types one name, or a type the name of a built-in
scalar. `Schema.conflicts` reports every such place; a suppressed type has no new name and takes no
part.
-/

namespace SchemaReshape

structure NameConflicts where
  /-- New names that several types would have, each with the present names of these types. -/
  shared : NameMap NameSet
  /-- Types that would take the name of a built-in scalar, each with that name. -/
  builtin : NameMap Name
  deriving DecidableEq

namespace NameConflicts

instance : EmptyCollection NameConflicts := ⟨⟨∅, ∅⟩⟩

def isClean (r : NameConflicts) : Bool := r.shared.isEmpty && r.builtin.isEmpty

def message (r : NameConflicts) : String :=
  let names :=
    if r.shared.isEmpty then []
    else ["Applying the renaming would produce a schema in which multiple types have the same " ++
      "name, which is an illegal schema state. For each key k in name_conflicts, " ++
      "name_conflicts[k] is the set of types in the original schema that get mapped to k in the " ++
      "new schema. To fix this, modify the renaming plan to ensure that no two types in the " ++
      "renamed schema have the same name. name_conflicts: " ++
      Text.quotedMap r.shared Text.quotedSet]
  let builtins :=
    if r.builtin.isEmpty then []
    else ["Applying the renaming would rename type(s) to a name already used by a built-in " ++
      "GraphQL scalar type. To fix this, ensure that no type name is mapped to a scalar's name. " ++
      "The following map has each to-be-renamed type and the scalar name it was mapped to: " ++
      Text.quotedMap r.builtin Text.quoted]
  String.intercalate "\n" (names ++ builtins)

end NameConflicts

namespace Schema

/-- The new name of each type that is not suppressed, paired with its present name. -/
def renamedTypes (s : Schema) (plan : Plan) : List (Name × Name) :=
  s.types.filterMap fun d => (plan.newName? d.name).map fun newName => (newName, d.name)

def conflicts (s : Schema) (plan : Plan) (settings : Settings) : NameConflicts where
  shared := (SortedMap.group (s.renamedTypes plan)).filter fun _ types =>
    1 < types.size
  builtin := .ofList <| ((s.renamedTypes plan).filter fun p =>
    p.1 != p.2 && settings.isBuiltinScalar p.1).map Prod.swap

def checkConflicts (s : Schema) (plan : Plan) (settings : Settings) :
    Except NameConflicts Unit :=
  let report := s.conflicts plan settings
  if report.isClean then pure () else throw report

end Schema

end SchemaReshape
