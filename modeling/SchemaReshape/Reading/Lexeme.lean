import SchemaReshape.Reading.Reader
import SchemaReshape.Reading.Numeral
import SchemaReshape.Fault.Syntax
import SchemaReshape.Text.Block
import SchemaReshape.Text.Hex

/-!
# Lexemes

Keywords, punctuation, names, strings and numbers. A lexeme may have a gap of blanks and comments
before it, and no keyword has to end where a word ends.
-/

namespace SchemaReshape

/-- A reader of documents. -/
abbrev Grammar := Reader SyntaxFault

namespace Grammar

open Reader

def isLineEnd (c : Char) : Bool := c = '\n' || c = '\r'

def isBlank (c : Char) : Bool := c = ' ' || c = ',' || c = '\t' || c = '\ufeff' || isLineEnd c

/-- The text after blanks and comments. A comment goes from a number sign to the end of its line. -/
def afterGap (inComment : Bool) : List Char → List Char
  | [] => []
  | c :: cs =>
    if inComment then afterGap (!isLineEnd c) cs
    else if isBlank c then afterGap false cs
    else if c = '#' then afterGap true cs
    else c :: cs

def gap : Grammar Unit := advance (afterGap false)

def lexeme {α : Type} (p : Grammar α) : Grammar α := do
  gap
  p

def symbol (text : String) : Grammar Unit := lexeme (literal text)

def bareName : Grammar Name := do
  let c ← satisfy Name.isStartChar
  return String.ofList (c :: (← run Name.isChar))

def name : Grammar Name := lexeme bareName

def wholeDigits : Grammar (List Char) :=
  ((fun c => [c]) <$> satisfy (· = '0')) <|> run1 Char.isDigit

def fraction : Grammar (List Char) := do
  literal "."
  run1 Char.isDigit

def exponent : Grammar Exponent := do
  let _ ← satisfy fun c => c = 'e' || c = 'E'
  let sign? ← orNone (satisfy fun c => c = '+' || c = '-')
  return ⟨sign? = some '-', ← run1 Char.isDigit⟩

/-- A number, which no letter may follow. A number that is out of range is noted. -/
def number {constant : Bool} : Grammar (Parsed.Value constant) := lexeme do
  let sign? ← orNone (literal "-")
  let whole ← wholeDigits
  let fraction? ← orNone fraction
  let exponent? ← orNone exponent
  absent (satisfy Name.isStartChar)
  match Numeral.value ⟨sign?.isSome, whole, fraction?, exponent?⟩ with
  | some n => return .number n
  | none =>
    note .numberTooLarge
    return .null

def escaped? : Char → Option Char
  | '"' => some '"'
  | '\\' => some '\\'
  | '/' => some '/'
  | 'b' => some '\x08'
  | 'f' => some '\x0c'
  | 'n' => some '\n'
  | 'r' => some '\r'
  | 't' => some '\t'
  | _ => none

/-- The inside of a string after its opening quote, and what follows the closing one. A string ends
on the line where it begins. -/
def stringBody : List Char → Option (List Char × List Char)
  | [] => none
  | '\\' :: 'u' :: a :: b :: c :: d :: rest => do
    let char ← Text.charOfHex? [a, b, c, d]
    let (chars, rest) ← stringBody rest
    return (char :: chars, rest)
  | '\\' :: c :: rest => do
    let char ← escaped? c
    let (chars, rest) ← stringBody rest
    return (char :: chars, rest)
  | c :: rest =>
    if c = '"' then some ([], rest)
    else if c = '\\' ∨ isLineEnd c then none
    else do
      let (chars, rest) ← stringBody rest
      return (c :: chars, rest)

/-- The inside of a block string after its opening quotes, as written, and what follows the closing
ones. Three quotes after a backslash do not close it. -/
def blockBody : List Char → Option (List Char × List Char)
  | [] => none
  | '"' :: '"' :: '"' :: rest => some ([], rest)
  | '\\' :: '"' :: '"' :: '"' :: rest => do
    let (chars, rest) ← blockBody rest
    return ('\\' :: '"' :: '"' :: '"' :: chars, rest)
  | c :: rest => do
    let (chars, rest) ← blockBody rest
    return (c :: chars, rest)

def blockString : Grammar String := do
  literal "\"\"\""
  return Text.blockValue (← ofFunction blockBody)

def plainString : Grammar String := do
  literal "\""
  return String.ofList (← ofFunction stringBody)

def string : Grammar String := lexeme (blockString <|> plainString)

end Grammar

end SchemaReshape
