import SchemaReshape.Name

/-!
# Input values

The values that arguments carry and that input values default to. A number is kept as its text.
-/

namespace SchemaReshape

inductive Value where
  | var (name : Name)
  | int (text : String)
  | float (text : String)
  | string (text : String)
  | boolean (value : Bool)
  | null
  | enum (name : Name)
  | list (values : List Value)
  | object (fields : List (Name × Value))
  deriving Repr, Inhabited

namespace Value

mutual

def sameAs : Value → Value → Bool
  | var a, var b | int a, int b | float a, float b | string a, string b | enum a, enum b => a == b
  | boolean a, boolean b => a == b
  | null, null => true
  | list as, list bs => sameValues as bs
  | object as, object bs => sameFields as bs
  | _, _ => false

def sameValues : List Value → List Value → Bool
  | [], [] => true
  | a :: as, b :: bs => a.sameAs b && sameValues as bs
  | _, _ => false

def sameFields : List (Name × Value) → List (Name × Value) → Bool
  | [], [] => true
  | (m, a) :: as, (n, b) :: bs => m == n && a.sameAs b && sameFields as bs
  | _, _ => false

end

mutual

theorem sameAs_iff : ∀ a b : Value, a.sameAs b = true ↔ a = b
  | var _, b | int _, b | float _, b | string _, b | enum _, b | boolean _, b | null, b => by
    cases b <;> simp [sameAs]
  | list as, b => by
    cases b <;> simp [sameAs, sameValues_iff as]
  | object as, b => by
    cases b <;> simp [sameAs, sameFields_iff as]

theorem sameValues_iff : ∀ as bs : List Value, sameValues as bs = true ↔ as = bs
  | [], bs => by cases bs <;> simp [sameValues]
  | a :: as, bs => by
    cases bs <;> simp [sameValues, sameAs_iff a, sameValues_iff as]

theorem sameFields_iff : ∀ as bs : List (Name × Value), sameFields as bs = true ↔ as = bs
  | [], bs => by cases bs <;> simp [sameFields]
  | (m, a) :: as, bs => by
    rcases bs with _ | ⟨⟨n, b⟩, bs⟩ <;> simp [sameFields, sameAs_iff a, sameFields_iff as]

end

instance : DecidableEq Value := fun a b => decidable_of_iff _ (sameAs_iff a b)

end Value

end SchemaReshape
