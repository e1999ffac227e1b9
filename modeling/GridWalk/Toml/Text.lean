/-!
# TOML texts

Texts come in four kinds: between double quotes with escapes or between single quotes without, each
on one line or, between three quotes, on several. Comments, blanks and line ends are told apart
here too.
-/

namespace GridWalk.Toml

/-- Reads a value from the front of a text and gives what is left behind it. -/
abbrev Reader (α : Type) := List Char → Option (α × List Char)

/-- Whether a character separates the parts of a line. -/
def isBlank (symbol : Char) : Bool := symbol = ' ' || symbol = '\t'

/-- Whether a character may stand in a comment or a text. -/
def isPlain (symbol : Char) : Bool :=
  symbol = '\t' || (' ' ≤ symbol && symbol ≤ '~') || '\x80' ≤ symbol

/-- What is left behind blanks. -/
def dropBlanks (input : List Char) : List Char := input.dropWhile isBlank

/-- What is left behind the end of a line, if one comes next. -/
def lineEnd? : List Char → Option (List Char)
  | '\n' :: rest => some rest
  | '\r' :: '\n' :: rest => some rest
  | _ => none

/-- What is left behind blanks and ends of lines. -/
def dropBlankLines : List Char → List Char
  | ' ' :: rest => dropBlankLines rest
  | '\t' :: rest => dropBlankLines rest
  | '\n' :: rest => dropBlankLines rest
  | '\r' :: '\n' :: rest => dropBlankLines rest
  | rest => rest

/-- What is left behind a comment, if one comes next. -/
def dropComment : List Char → List Char
  | '#' :: rest => rest.dropWhile isPlain
  | rest => rest

/-! ## Escapes -/

/-- The value of a hexadecimal digit. -/
def hexValue? (symbol : Char) : Option Nat :=
  if '0' ≤ symbol ∧ symbol ≤ '9' then some (symbol.toNat - '0'.toNat)
  else if 'a' ≤ symbol ∧ symbol ≤ 'f' then some (symbol.toNat - 'a'.toNat + 10)
  else if 'A' ≤ symbol ∧ symbol ≤ 'F' then some (symbol.toNat - 'A'.toNat + 10)
  else none

/-- Reads a character given by its code in hexadecimal digits. -/
def readCode (width : Nat) : Reader Char := fun input => do
  let digits ← (input.take width).mapM hexValue?
  let code := digits.foldl (fun value digit => 16 * value + digit) 0
  if digits.length = width ∧ code.isValidChar then
    pure (Char.ofNat code, input.drop width)
  else
    none

/-- Reads what follows a backslash. -/
def readEscape : Reader Char
  | 'b' :: rest => some ('\x08', rest)
  | 't' :: rest => some ('\t', rest)
  | 'n' :: rest => some ('\n', rest)
  | 'f' :: rest => some ('\x0c', rest)
  | 'r' :: rest => some ('\r', rest)
  | '"' :: rest => some ('"', rest)
  | '\\' :: rest => some ('\\', rest)
  | 'u' :: rest => readCode 4 rest
  | 'U' :: rest => readCode 8 rest
  | _ => none

/-- What is left behind a line end with blanks around it, which a backslash joins to nothing. -/
def joinedLines? (input : List Char) : Option (List Char) :=
  (lineEnd? (dropBlanks input)).map dropBlankLines

/-! ## Bodies -/

/-- How a text is quoted. -/
structure Quoting where
  /-- The quote. -/
  quote : Char
  /-- Whether backslashes have a meaning. -/
  escapes : Bool
  /-- Whether the text may span lines and ends with three quotes. -/
  multiline : Bool

/-- Reads a text up to its closing quotes. Each step takes a character, so a bound as long as the
input is never used up. In a text of several lines up to two quotes may stand before the closing
ones. -/
def readBody (quoting : Quoting) : (bound : List Char) → Reader (List Char)
  | [], _ => none
  | _, [] => none
  | _ :: bound, symbol :: rest =>
      let continueWith (symbols rest : List Char) : Option (List Char × List Char) := do
        let (body, rest) ← readBody quoting bound rest
        pure (symbols ++ body, rest)
      if symbol = quoting.quote then
        if quoting.multiline then
          let quotes := (symbol :: rest).takeWhile (· = quoting.quote)
          let behind := (symbol :: rest).dropWhile (· = quoting.quote)
          if quotes.length < 3 then
            continueWith quotes behind
          else
            let kept := min (quotes.length - 3) 2
            some (quotes.take kept, quotes.drop (kept + 3) ++ behind)
        else
          some ([], rest)
      else if symbol = '\\' ∧ quoting.escapes then
        match if quoting.multiline then joinedLines? rest else none with
        | some rest => continueWith [] rest
        | none => do
            let (symbol, rest) ← readEscape rest
            continueWith [symbol] rest
      else if isPlain symbol then
        continueWith [symbol] rest
      else
        match if quoting.multiline then lineEnd? (symbol :: rest) else none with
        | some rest => continueWith ['\n'] rest
        | none => none

/-- Reads a text behind its opening quotes. -/
def readQuoted (quoting : Quoting) : Reader String := fun input => do
  let (body, rest) ← readBody quoting input input
  pure (String.ofList body, rest)

/-- Reads a text on one line. -/
def readLineText : Reader String
  | '"' :: rest => readQuoted ⟨'"', true, false⟩ rest
  | '\'' :: rest => readQuoted ⟨'\'', false, false⟩ rest
  | _ => none

/-- Reads a text of any kind. A line end right behind three opening quotes is not part of it. -/
def readText : Reader String
  | '"' :: '"' :: '"' :: rest => readQuoted ⟨'"', true, true⟩ ((lineEnd? rest).getD rest)
  | '\'' :: '\'' :: '\'' :: rest => readQuoted ⟨'\'', false, true⟩ ((lineEnd? rest).getD rest)
  | input => readLineText input

end GridWalk.Toml
