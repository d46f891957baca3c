import SchemaReshape.Proofs.Rename.Agreement

/-!
# Entries for what a document does not define

`Plan.confinedTo` takes out of a plan the entries for types that a document does not define and the
suppressions of fields that no type of it has. The confined plan says the same of all that the
document defines, so that the outcome of the renaming is the same (`Document.rename_confinedTo`).
-/

namespace SchemaReshape

namespace Document

variable (document : Document)

def knowsType (n : Name) : Bool := n.isBuiltinScalar || (document.type? n).isSome

def knowsField (type field : Name) : Bool :=
  (document.type? type).any fun d => (d.field? field).isSome

variable {document} {s : Schema} (hs : document.Supports s)

include hs

theorem Supports.knowsType_eq (n : Name) : document.knowsType n = s.isDefined n := by
  rw [knowsType, Schema.isDefined, Document.type?, Schema.type?, hs.types]

theorem Supports.knowsField_of_mem {d : TypeDefinition} (hd : d ∈ s.types)
    {field : FieldDefinition} (hfield : field ∈ d.fields) :
    document.knowsField d.name field.name = true := by
  have hfind : document.type? d.name = some d := by
    rw [Document.type?, ← hs.types]
    exact (Schema.type?_eq_some_iff hs.wellFormed.types_nodup).2 ⟨hd, rfl⟩
  rw [knowsField, hfind, Option.any_some, TypeDefinition.field?, List.find?_isSome]
  exact ⟨field, hfield, beq_self_eq_true _⟩

end Document

namespace Plan

variable (plan : Plan) (document : Document)

/-- The plan without the entries for what the document does not define. -/
def confinedTo : Plan where
  types := plan.types.filter fun n _ => document.knowsType n
  fields := .group (plan.suppressedFields.filter fun e => document.knowsField e.1 e.2)

variable {plan} {type field : Name}

theorem change?_confinedTo : (plan.confinedTo document).change? type =
    if document.knowsType type then plan.change? type else none :=
  SortedMap.get?_filter_keys ..

theorem hasField_confinedTo : (plan.confinedTo document).suppressions.hasField type field =
    (plan.suppressions.hasField type field && document.knowsField type field) := by
  rw [Bool.eq_iff_iff, Bool.and_eq_true]
  change field ∈ ((plan.confinedTo document).fields.get? type).getD ∅ ↔ _
  rw [confinedTo, SortedMap.mem_get?_group, List.mem_filter, mem_suppressedFields]

theorem agreeOn_confinedTo {s : Schema} (hs : document.Supports s) :
    AgreeOn s (plan.confinedTo document) plan where
  change? n hn := by rw [change?_confinedTo, hs.knowsType_eq, if_pos hn]
  hasField d hd field hfield := by
    rw [hasField_confinedTo, hs.knowsField_of_mem hd hfield, Bool.and_true]

end Plan

/-- Entries for types that a document does not define and suppressions of fields that no type of it
has make no difference to the outcome of a renaming, whether it succeeds or fails. -/
theorem Document.rename_confinedTo {document : Document} (hschemas : document.schemas.length ≤ 1)
    (plan : Plan) (settings : Settings) :
    document.rename (plan.confinedTo document) settings = document.rename plan settings :=
  rename_congr hschemas (fun _ hs => plan.agreeOn_confinedTo document hs) settings

namespace Sample

/-- `swap` together with entries for animals that are no pets, one under an unusable name and one
under a name that is taken, and for fields that nobody has. -/
def strays : Plan :=
  ((((swap.renameType "Bird" "__x").renameType "Snake" "Dog").suppressType "Fish").suppressField
    "Bird" "wings").suppressField "Person" "age"

theorem rename_strays :
    pets.schemas.length ≤ 1 ∧ strays.confinedTo pets = swap ∧ strays ≠ swap ∧
    (∃ r, pets.rename strays .standard = .ok r) ∧
    pets.rename (strays.confinedTo pets) .standard = pets.rename strays .standard :=
  ⟨by decide, by decide, by decide, ⟨_, rfl⟩,
    Document.rename_confinedTo (by decide) strays .standard⟩

end Sample

end SchemaReshape
