/-!
# Readers

A reader takes a value off the front of a text or refuses; a refusal takes nothing, so that another
reader can be tried at the same place. What a text says wrongly without breaking the grammar is
noted in passing: the first note along the accepted reading is kept, and those of readings given up
are forgotten.

Recursion goes through `Reader.fix`, which lets a reader call itself on shorter texts only.
-/

namespace SchemaReshape

/-- A text that is still to be read, and the first fault noted before. -/
structure Source (φ : Type) where
  rest : List Char
  fault? : Option φ

abbrev Reader (φ α : Type) := StateT (Source φ) Option α

namespace Reader

variable {φ σ α : Type}

/-- Notes a fault unless one has been noted before. -/
def note (fault : φ) : Reader φ Unit :=
  modify fun s => { s with fault? := s.fault? <|> some fault }

def ofFunction (read : List Char → Option (α × List Char)) : Reader φ α := fun s =>
  (read s.rest).map fun r => (r.1, { s with rest := r.2 })

def advance (skip : List Char → List Char) : Reader φ Unit :=
  modify fun s => { s with rest := skip s.rest }

def satisfy (test : Char → Bool) : Reader φ Char :=
  ofFunction fun
    | c :: cs => if test c then some (c, cs) else none
    | [] => none

def run (test : Char → Bool) : Reader φ (List Char) :=
  ofFunction fun cs => some (cs.takeWhile test, cs.dropWhile test)

def run1 (test : Char → Bool) : Reader φ (List Char) := do
  let c ← satisfy test
  return c :: (← run test)

def literal (text : String) : Reader φ Unit :=
  ofFunction fun cs =>
    let expected := text.toList
    if expected.isPrefixOf cs then some ((), cs.drop expected.length) else none

/-- Takes nothing, and succeeds where the reader refuses. -/
def absent (p : Reader φ α) : Reader φ Unit := fun s =>
  match p s with
  | none => some ((), s)
  | some _ => none

def atEnd : Reader φ Unit := absent (satisfy fun _ => true)

/-- As many as there are; a reader that takes nothing ends the repetition. -/
def many (p : Reader φ α) : Reader φ (List α) := fun s =>
  match p s with
  | none => some ([], s)
  | some (a, s') =>
    if s'.rest.length < s.rest.length then (many p s').map fun r => (a :: r.1, r.2)
    else some ([a], s')
termination_by s => s.rest.length

def many1 (p : Reader φ α) : Reader φ (List α) := do
  let a ← p
  return a :: (← many p)

def orNone (p : Reader φ α) : Reader φ (Option α) := (some <$> p) <|> pure none

def orEmpty (p : Reader φ (List α)) : Reader φ (List α) := p <|> pure []

/-- A reader defined through itself. The inner calls refuse a text that is not shorter. -/
def fix (step : (σ → Reader φ α) → σ → Reader φ α) (a : σ) : Reader φ α := fun s =>
  step (fun b t => if t.rest.length < s.rest.length then fix step b t else none) a s
termination_by s => s.rest.length

/-- Reads a text to its end. A text that the reader accepts fails with the first fault noted. -/
def runOn (p : Reader φ α) (malformed : φ) (text : String) : Except φ α :=
  match (p <* atEnd) ⟨text.toList, none⟩ with
  | none => throw malformed
  | some (a, s) =>
    match s.fault? with
    | none => pure a
    | some fault => throw fault

end Reader

end SchemaReshape
