import SchemaReshape.Sorted.Set
import SchemaReshape.Text.Visible

/-!
# Quoted text

A text, a character, a set or a map as a report shows it: texts between double quotes, characters
between single quotes, and every character that would not show escaped. The rest stands as it is.
-/

namespace SchemaReshape.Text

/-- The character inside a text between two marks `mark`: the mark and the backslash stand after a
backslash, and what does not show is spelled by its code point. -/
def escape (mark c : Char) : List Char :=
  if c = mark ∨ c = '\\' then ['\\', c]
  else if c = '\x00' then ['\\', '0']
  else if c = '\t' then ['\\', 't']
  else if c = '\r' then ['\\', 'r']
  else if c = '\n' then ['\\', 'n']
  else if isVisible c then [c]
  else ['\\', 'u', '{'] ++ Nat.toDigits 16 c.toNat ++ ['}']

def quoted (s : String) : String :=
  String.ofList (['"'] ++ s.toList.flatMap (escape '"') ++ ['"'])

def quotedChar (c : Char) : String :=
  String.ofList (['\x27'] ++ escape '\x27' c ++ ['\x27'])

def braced (items : List String) : String :=
  "\x7b" ++ String.intercalate ", " items ++ "\x7d"

def quotedSet (s : SortedSet String) : String := braced (s.toList.map quoted)

def quotedCharSet (s : SortedSet Char) : String := braced (s.toList.map quotedChar)

def quotedMap {α : Type} (m : SortedMap String α) (value : α → String) : String :=
  braced (m.toList.map fun e => quoted e.1 ++ ": " ++ value e.2)

end SchemaReshape.Text
