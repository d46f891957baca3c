/-!
# Characters by code point

A character spelled by the hexadecimal digits of its code point.
-/

namespace SchemaReshape.Text

def hexValue? (c : Char) : Option Nat :=
  if c.isDigit then some (c.toNat - '0'.toNat)
  else if 'a' ≤ c ∧ c ≤ 'f' then some (c.toNat - 'a'.toNat + 10)
  else if 'A' ≤ c ∧ c ≤ 'F' then some (c.toNat - 'A'.toNat + 10)
  else none

/-- The character with the code point that the digits spell, if there is one: a half of a surrogate
pair is no character. -/
def charOfHex? (digits : List Char) : Option Char := do
  let code := (← digits.mapM hexValue?).foldl (fun n d => 16 * n + d) 0
  if code.isValidChar then some (Char.ofNat code) else none

end SchemaReshape.Text
