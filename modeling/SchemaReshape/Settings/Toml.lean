import SchemaReshape.Reading.Reader
import SchemaReshape.Settings
import SchemaReshape.Text.Hex

/-!
# Settings as a TOML document

A settings file gives at most two keys, each with an array of strings; what it leaves out is
standard. `Settings.readToml` reads the part of TOML that such a file can use: comments, bare and
quoted keys, arrays over several lines and all four forms of strings.
-/

namespace SchemaReshape

namespace Toml

open Reader

abbrev TomlReader := Reader Empty

def isBlank (c : Char) : Bool := c = ' ' || c = '\t'

/-- What may stand in comments and on a line of a string: anything but controls, and the tab. -/
def isText (c : Char) : Bool := c = '\t' || (' ' ≤ c && c ≠ '\x7f')

def blanks : TomlReader Unit := advance (·.dropWhile isBlank)

def newline : TomlReader Unit := literal "\n" <|> literal "\r\n"

def comment : TomlReader Unit := do
  literal "#"
  let _ ← run isText

def gap : TomlReader Unit := do
  let _ ← many ((fun _ => ()) <$> run1 isBlank <|> newline <|> comment)

def escaped? : Char → Option Char
  | '"' => some '"'
  | '\\' => some '\\'
  | 'b' => some '\x08'
  | 'f' => some '\x0c'
  | 'n' => some '\n'
  | 'r' => some '\r'
  | 't' => some '\t'
  | _ => none

def escapeBody : List Char → Option (Char × List Char)
  | 'u' :: rest => if rest.length < 4 then none else do
    return (← Text.charOfHex? (rest.take 4), rest.drop 4)
  | 'U' :: rest => if rest.length < 8 then none else do
    return (← Text.charOfHex? (rest.take 8), rest.drop 8)
  | c :: rest => (escaped? c).map (·, rest)
  | [] => none

def escape : TomlReader Char := do
  literal "\\"
  ofFunction escapeBody

def basicString : TomlReader String := do
  literal "\""
  let chars ← many (escape <|> satisfy fun c => isText c && c ≠ '"' && c ≠ '\\')
  literal "\""
  return String.ofList chars

def literalString : TomlReader String := do
  literal "\x27"
  let chars ← run fun c => isText c && c ≠ '\x27'
  literal "\x27"
  return String.ofList chars

/-- A line end in a string, which counts as a line feed. -/
def stringNewline : TomlReader (List Char) := (fun _ => ['\n']) <$> newline

/-- A backslash at the end of a line takes away the blanks and line ends after it. -/
def continuation : TomlReader (List Char) := do
  literal "\\"
  blanks
  newline
  let _ ← many ((fun _ => ()) <$> run1 isBlank <|> newline)
  return []

/-- One or two quotes that do not close the string. -/
def innerQuotes (quote : String) : TomlReader (List Char) :=
  (do
    literal quote
    literal quote
    absent (literal quote)
    return quote.toList ++ quote.toList)
  <|> do
    literal quote
    absent (literal quote)
    return quote.toList

/-- The three quotes that close a string, and up to two more that belong to it. -/
def closingQuotes (quote : String) : TomlReader (List Char) := do
  literal (quote ++ quote ++ quote)
  let one ← orEmpty ((fun _ => quote.toList) <$> literal quote)
  let two ← orEmpty ((fun _ => quote.toList) <$> literal quote)
  return one ++ two

/-- A string over several lines, given what may stand in it besides quotes and line ends. A line
end right after the opening quotes does not belong to it. -/
def multilineString (quote : String) (item : TomlReader (List Char)) : TomlReader String := do
  literal (quote ++ quote ++ quote)
  let _ ← orNone newline
  let chars ← many (item <|> stringNewline <|> innerQuotes quote)
  let last ← closingQuotes quote
  return String.ofList (chars.flatten ++ last)

def multilineBasicString : TomlReader String :=
  multilineString "\"" <|
    continuation <|> ((fun c => [c]) <$> escape)
      <|> run1 fun c => isText c && c ≠ '"' && c ≠ '\\'

def multilineLiteralString : TomlReader String :=
  multilineString "\x27" (run1 fun c => isText c && c ≠ '\x27')

def string : TomlReader String :=
  multilineBasicString <|> multilineLiteralString <|> basicString <|> literalString

def key : TomlReader String :=
  (String.ofList <$> run1 fun c => c.isAlphanum || c = '_' || c = '-')
    <|> basicString <|> literalString

def items : TomlReader (List String) := do
  let first ← string
  let others ← many do
    gap
    literal ","
    gap
    string
  gap
  let _ ← orNone (literal ",")
  return first :: others

def array : TomlReader (List String) := do
  literal "["
  gap
  let strings ← orEmpty items
  gap
  literal "]"
  return strings

def entry : TomlReader (String × List String) := do
  let key ← key
  blanks
  literal "="
  blanks
  return (key, ← array)

/-- A line with or without an entry and a comment. An array may make it run over several. -/
def line : TomlReader (Option (String × List String)) := do
  blanks
  let entry? ← orNone entry
  blanks
  let _ ← orNone comment
  return entry?

def document : TomlReader (List (String × List String)) := do
  let _ ← orNone (satisfy (· = '\ufeff'))
  let first ← line
  let others ← many do
    newline
    line
  atEnd
  return (first :: others).filterMap fun entry? => entry?

/-- The entries of a document, if it is one that consists of arrays of strings. -/
def read? (text : String) : Option (List (String × List String)) :=
  (document ⟨text.toList, none⟩).map (·.1)

end Toml

namespace Settings

/-- The settings that a file gives: known keys, each at most once. -/
def readToml (text : String) : Option Settings := do
  let entries ← Toml.read? text
  let keys := entries.map (·.1)
  if keys.Nodup ∧ ∀ key ∈ keys, key ∈ ["extra_builtin_scalars", "split_directives"] then
    let extra := entries.lookup "extra_builtin_scalars"
    let split := entries.lookup "split_directives"
    return {
      extraBuiltinScalars := (extra.map .ofList).getD standard.extraBuiltinScalars
      splitDirectives := (split.map .ofList).getD standard.splitDirectives }
  else none

def tomlFaultMessage : String := "Invalid transform configuration: <toml error>"

end Settings

end SchemaReshape
