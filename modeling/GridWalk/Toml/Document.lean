import GridWalk.Toml.Scalar

/-!
# TOML documents

A document is a row of lines. A header says which table the following keys belong to; a key has one
or more names with dots between them. Arrays may span lines and hold comments, tables in braces may
not.
-/

namespace GridWalk.Toml

/-! ## Keys -/

/-- Whether a character may stand in a name without quotes. -/
def isNameSymbol (symbol : Char) : Bool :=
  symbol.isAlphanum || symbol = '_' || symbol = '-'

/-- Reads one name of a key, with blanks around it. -/
def readName : Reader String := fun input =>
  let input := dropBlanks input
  match readLineText input with
  | some (name, rest) => some (name, dropBlanks rest)
  | none =>
      let name := input.takeWhile isNameSymbol
      if name = [] then none
      else some (String.ofList name, dropBlanks (input.dropWhile isNameSymbol))

/-- How many names a key may have, and how many arrays and tables may open inside each other. -/
def nestingLimit : Nat := 79

/-- Reads the names of a key, of which there are at most so many. -/
def readNames : (most : Nat) → Reader (List String)
  | 0, _ => none
  | most + 1, input => do
      let (name, rest) ← readName input
      match rest with
      | '.' :: rest =>
          let (names, rest) ← readNames most rest
          pure (name :: names, rest)
      | _ => pure ([name], rest)

/-- Reads a key as the path to a table and the last name. -/
def readKey : Reader (List String × String) := fun input => do
  let (names, rest) ← readNames nestingLimit input
  pure ((names.dropLast, ← names.getLast?), rest)

/-! ## Values -/

/-- What is left behind blanks, ends of lines and comments, the first of which may have begun. -/
def dropFiller (commented : Bool) : List Char → List Char
  | [] => []
  | '\n' :: rest => dropFiller false rest
  | '\r' :: '\n' :: rest => dropFiller false rest
  | '#' :: rest => dropFiller true rest
  | symbol :: rest =>
      if isBlank symbol || (commented && isPlain symbol) then dropFiller commented rest
      else symbol :: rest

mutual

/-- Reads a value. The depth counts the arrays and tables that may still open inside it; a budget of
twice the characters is never used up. -/
def readValue : (budget depth : Nat) → Reader Value
  | 0, _, _ => none
  | budget + 1, depth, input =>
      match input with
      | '[' :: rest =>
          if depth = 0 then none
          else do
            let (elements, rest) ← readElements budget (depth - 1) (dropFiller false rest)
            pure (.array elements, rest)
      | '{' :: rest =>
          if depth = 0 then none
          else
            match dropBlanks rest with
            | '}' :: rest => some (.table .inline [], rest)
            | rest => do
                let (entries, rest) ← readEntries budget (depth - 1) [] rest
                pure (.table .inline entries, rest)
      | _ => readScalar input

/-- Reads the elements of an array and its closing bracket. -/
def readElements : (budget depth : Nat) → Reader (List Value)
  | 0, _, _ => none
  | budget + 1, depth, input =>
      match input with
      | ']' :: rest => some ([], rest)
      | _ => do
          let (element, rest) ← readValue budget depth input
          match dropFiller false rest with
          | ',' :: rest =>
              let (elements, rest) ← readElements budget depth (dropFiller false rest)
              pure (element :: elements, rest)
          | ']' :: rest => pure ([element], rest)
          | _ => none

/-- Reads the entries of a table in braces and its closing brace. -/
def readEntries : (budget depth : Nat) → Entries → Reader Entries
  | 0, _, _, _ => none
  | budget + 1, depth, entries, input => do
      let ((path, name), rest) ← readKey input
      let rest ← readSymbol '=' rest
      let (value, rest) ← readValue budget depth (dropBlanks rest)
      let entries ← entries.assignKey .inline path name value
      match dropBlanks rest with
      | ',' :: rest => readEntries budget depth entries rest
      | '}' :: rest => pure (entries, rest)
      | _ => none

end

/-! ## Lines -/

/-- A document as far as it is read: its tables, and the header whose table grows. -/
structure State where
  /-- The tables. -/
  root : Entries
  /-- The path of the header. -/
  path : List String

/-- What is left behind blanks, a comment and the end of a line or of the document. -/
def finishLine (input : List Char) : Option (List Char) :=
  match dropComment (dropBlanks input) with
  | [] => some []
  | rest => lineEnd? rest

/-- Reads a header behind its first bracket. -/
def readHeader (state : State) : Reader State
  | '[' :: rest => do
      let ((path, name), rest) ← readKey rest
      let rest ← readSymbol ']' (← readSymbol ']' rest)
      let root ← state.root.changeAt false (Entries.append name) .header path
      pure (⟨root, path ++ [name]⟩, rest)
  | rest => do
      let ((path, name), rest) ← readKey rest
      let rest ← readSymbol ']' rest
      let root ← state.root.changeAt false (Entries.define name) .header path
      pure (⟨root, path ++ [name]⟩, rest)

/-- Reads a key and its value. The budget is at least the number of characters. -/
def readAssignment (budget : Nat) (state : State) : Reader State := fun input => do
  let ((path, name), rest) ← readKey input
  let rest := dropBlanks (← readSymbol '=' rest)
  let (value, rest) ← readValue (2 * budget + 1) nestingLimit rest
  let change : Entries.Change := fun kind entries => entries.assignKey kind path name value
  let root ← state.root.changeAt false change .header state.path
  pure (⟨root, state.path⟩, rest)

/-- Reads a line and gives what is left behind it. The budget is at least the number of
characters. -/
def readLine (budget : Nat) (state : State) : Reader State := fun input =>
  match dropBlanks input with
  | [] => some (state, [])
  | symbol :: rest =>
      if symbol = '#' ∨ symbol = '\n' ∨ symbol = '\r' then do
        pure (state, ← finishLine (symbol :: rest))
      else do
        let (state, rest) ←
          if symbol = '[' then readHeader state rest
          else readAssignment budget state (symbol :: rest)
        pure (state, ← finishLine rest)

/-- Reads lines. Each takes a character, so a budget of the characters is never used up. -/
def readLines : (budget : Nat) → State → List Char → Option Entries
  | _, state, [] => some state.root
  | 0, _, _ => none
  | budget + 1, state, input => do
      let (state, rest) ← readLine (budget + 1) state input
      readLines budget state rest

/-- The tables of a document, which may start with a byte order mark. -/
def readDocument (text : String) : Option Entries :=
  let input := match text.toList with
    | '\uFEFF' :: rest => rest
    | input => input
  readLines input.length ⟨[], []⟩ input

end GridWalk.Toml
