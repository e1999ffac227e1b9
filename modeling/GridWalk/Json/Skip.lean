import GridWalk.Json.Number
import GridWalk.Json.Text

/-!
# Skipping JSON values

A value that nobody wants is only delimited. The brackets that are open wait in a list, so values
may nest to any depth.
-/

namespace GridWalk.Json

/-- An open bracket. -/
inductive Bracket where
  | list
  | record
  deriving DecidableEq, Repr

/-- The byte that closes a bracket. -/
def Bracket.closing : Bracket → UInt8
  | list => byte ']'
  | record => byte '}'

/-- What may come next while a value is skipped. -/
inductive Awaited where
  /-- A value. -/
  | value
  /-- The first part inside a bracket, or its end. -/
  | first
  /-- A comma or the end of a bracket. -/
  | more
  /-- The name of a member. -/
  | name
  deriving DecidableEq, Repr

/-- What is left behind a value without parts that starts with `code`. -/
def skipScalar (code : UInt8) (input : Bytes) : Except Fault Bytes :=
  if code = byte '"' then skipText input
  else if code = byte '-' ∨ isDigit code then skipNumber (code :: input)
  else
    match wordOf? code with
    | some word => expect word (code :: input)
    | none => .error .syntaxError

/-- One step of skipping at the byte `code`: what is awaited next, the open brackets and what is
left. -/
def skipStep (open? : List Bracket) (awaited : Awaited) (code : UInt8) (input : Bytes) :
    Except Fault (Awaited × List Bracket × Bytes) :=
  match awaited, open? with
  | .value, brackets =>
      if code = byte '[' then .ok (.first, .list :: brackets, input)
      else if code = byte '{' then .ok (.first, .record :: brackets, input)
      else do pure (.more, brackets, ← skipScalar code input)
  | .first, bracket :: brackets =>
      if code = bracket.closing then .ok (.more, brackets, input)
      else if bracket = .list then .ok (.value, bracket :: brackets, code :: input)
      else .ok (.name, bracket :: brackets, code :: input)
  | .more, bracket :: brackets =>
      if code = bracket.closing then .ok (.more, brackets, input)
      else if code = byte ',' then
        .ok (if bracket = .list then .value else .name, bracket :: brackets, input)
      else .error .syntaxError
  | .name, brackets =>
      if code = byte '"' then do
        let rest ← skipText input
        pure (.value, brackets, ← expectColon rest)
      else
        .error .syntaxError
  | _, [] => .error .syntaxError

/-- Skips until no bracket is open. Each step but those at a first part takes a byte, so a budget of
twice the bytes is never used up. -/
def skipFrom : (budget : Nat) → List Bracket → Awaited → Bytes → Except Fault Bytes
  | 0, _, _, _ => .error .eof
  | budget + 1, brackets, awaited, input =>
      if brackets = [] ∧ awaited = .more then
        .ok input
      else
        match dropBlanks input with
        | [] => .error .eof
        | code :: rest => do
            let (awaited, brackets, rest) ← skipStep brackets awaited code rest
            skipFrom budget brackets awaited rest

/-- What is left behind the value that comes next. The budget exceeds the number of bytes. -/
def skipValue (budget : Nat) (input : Bytes) : Except Fault Bytes :=
  skipFrom (2 * budget) [] .value input

end GridWalk.Json
