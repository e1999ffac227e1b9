import GridWalk.Json.Fault

/-!
# JSON strings

A string that is wanted has its escapes replaced, and its surrogates have to come in pairs. A string
that is skipped is only delimited. Both kinds start behind the opening quote.
-/

namespace GridWalk.Json

/-- The value of a hexadecimal digit. -/
def hexValue? (code : UInt8) : Option Nat :=
  if isDigit code then some (digitValue code)
  else if byte 'a' ≤ code ∧ code ≤ byte 'f' then some (code.toNat - (byte 'a').toNat + 10)
  else if byte 'A' ≤ code ∧ code ≤ byte 'F' then some (code.toNat - (byte 'A').toNat + 10)
  else none

/-- The value of four hexadecimal digits. -/
def hexWord? (first second third fourth : UInt8) : Option Nat := do
  let digits ← [first, second, third, fourth].mapM hexValue?
  pure (digits.foldl (fun value digit => 16 * value + digit) 0)

/-- The byte that an escape of one letter stands for. -/
def simpleEscape? (letter : UInt8) : Option UInt8 :=
  [('"', '"'), ('\\', '\\'), ('/', '/'), ('b', '\x08'), ('f', '\x0c'), ('n', '\n'), ('r', '\r'),
    ('t', '\t')].findSome? fun (name, symbol) =>
      if byte name = letter then some (byte symbol) else none

/-- Whether a code is the first half of a surrogate pair. -/
def isHighSurrogate (code : Nat) : Bool := 0xD800 ≤ code && code ≤ 0xDBFF

/-- Whether a code is the second half of a surrogate pair. -/
def isLowSurrogate (code : Nat) : Bool := 0xDC00 ≤ code && code ≤ 0xDFFF

/-- The code that a surrogate pair stands for. -/
def pairedCode (high low : Nat) : Nat :=
  0x10000 + (high - 0xD800) * 0x400 + (low - 0xDC00)

/-- The bytes of a character given by its code. -/
def encodeCode (code : Nat) : Bytes :=
  String.utf8EncodeChar (Char.ofNat code)

/-- The bytes that a string stands for and what is left behind its closing quote. The first half of
a surrogate pair waits in `high` and admits nothing but the second half. -/
def readBytes (high : Option Nat) : Bytes → Except Fault (Bytes × Bytes)
  | [] => .error .eof
  | code :: input =>
      if code = byte '\\' then
        match input with
        | [] => .error .eof
        | letter :: input =>
            if letter = byte 'u' then
              match input with
              | first :: second :: third :: fourth :: input =>
                  match hexWord? first second third fourth, high with
                  | none, _ => .error .syntaxError
                  | some low, some high =>
                      if isLowSurrogate low then do
                        let (bytes, rest) ← readBytes none input
                        pure (encodeCode (pairedCode high low) ++ bytes, rest)
                      else
                        .error .syntaxError
                  | some code, none =>
                      if isLowSurrogate code then
                        .error .syntaxError
                      else if isHighSurrogate code then
                        readBytes (some code) input
                      else do
                        let (bytes, rest) ← readBytes none input
                        pure (encodeCode code ++ bytes, rest)
              | _ => .error .eof
            else
              match simpleEscape? letter, high with
              | some symbol, none => do
                  let (bytes, rest) ← readBytes none input
                  pure (symbol :: bytes, rest)
              | _, _ => .error .syntaxError
      else if high.isSome then
        .error .syntaxError
      else if code = byte '"' then
        .ok ([], input)
      else if code < byte ' ' then
        .error .syntaxError
      else do
        let (bytes, rest) ← readBytes none input
        pure (code :: bytes, rest)

/-- The text that a string stands for and what is left behind its closing quote. -/
def readText (input : Bytes) : Except Fault (String × Bytes) := do
  let (bytes, rest) ← readBytes none input
  match String.fromUTF8? ⟨bytes.toArray⟩ with
  | some text => pure (text, rest)
  | none => throw .syntaxError

/-- What is left behind the closing quote of a string whose content does not matter. -/
def skipText : Bytes → Except Fault Bytes
  | [] => .error .eof
  | code :: input =>
      if code = byte '\\' then
        match input with
        | [] => .error .eof
        | letter :: input =>
            if letter = byte 'u' then
              match input with
              | first :: second :: third :: fourth :: input =>
                  if (hexWord? first second third fourth).isSome then skipText input
                  else .error .syntaxError
              | _ => .error .eof
            else if (simpleEscape? letter).isSome then
              skipText input
            else
              .error .syntaxError
      else if code = byte '"' then
        .ok input
      else if code < byte ' ' then
        .error .syntaxError
      else
        skipText input

/-- The written form of a text without quotes, backslashes and control characters. -/
def quote (text : String) : String :=
  "\"" ++ text ++ "\""

end GridWalk.Json
