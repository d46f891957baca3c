/-!
# Block texts

The value of a text that is written over several lines: the indent that all lines share and the
blank lines at both ends do not belong to it.
-/

namespace SchemaReshape.Text

/-- The lines of a text, which end at a line feed, a carriage return or both in that order. -/
def lines : List Char → List (List Char)
  | [] => [[]]
  | '\r' :: '\n' :: cs => [] :: lines cs
  | c :: cs =>
    if c = '\r' ∨ c = '\n' then [] :: lines cs
    else
      match lines cs with
      | [] => [[c]]
      | line :: rest => (c :: line) :: rest

def isIndentChar (c : Char) : Bool := c = ' ' || c = '\t'

def isBlankLine (line : List Char) : Bool := line.all isIndentChar

def indent (line : List Char) : Nat := (line.takeWhile isIndentChar).length

def commonIndent (ls : List (List Char)) : Nat :=
  (((ls.filter fun l => !isBlankLine l).map indent).min?).getD 0

/-- Takes the indent off a line, unless the line is shorter. -/
def cutIndent (n : Nat) (line : List Char) : List Char :=
  if line.length < n then line else line.drop n

def cutLines : List (List Char) → List (List Char)
  | [] => []
  | first :: rest => first :: rest.map (cutIndent (commonIndent rest))

def trimLines (ls : List (List Char)) : List (List Char) :=
  ((ls.dropWhile isBlankLine).reverse.dropWhile isBlankLine).reverse

def blockValue (written : List Char) : String :=
  String.intercalate "\n" ((trimLines (cutLines (lines written))).map String.ofList)

end SchemaReshape.Text
