import GridWalk.Json.Number
import GridWalk.Json.Skip
import GridWalk.Json.Text

/-!
# Reading JSON by shape

A reader knows the shape it wants. A record of two fields may be written as an object in any order,
with other members that are skipped, or as a list of the fields in order. One of a few names may be
written as a string or as an object whose only member is the name with the value `null`.
-/

namespace GridWalk.Json

/-- Reads a value of one shape. -/
abbrev Reader (α : Type) := Bytes → Except Fault (α × Bytes)

/-- The fault of a value that starts with `code` and has another shape than wanted. Values without
parts have to be well formed themselves first. -/
def mismatch (code : UInt8) (input : Bytes) : Fault :=
  let checked : Except Fault Unit :=
    if code = byte '[' ∨ code = byte '{' then .ok ()
    else if code = byte '"' then (fun _ => ()) <$> readText input
    else if code = byte '-' ∨ isDigit code then (fun _ => ()) <$> readNumber (code :: input)
    else
      match wordOf? code with
      | some word => (fun _ => ()) <$> expect word (code :: input)
      | none => .error .syntaxError
  match checked with
  | .ok () => .data
  | .error fault => fault

/-- Reads a number and looks at it. -/
def readNumeric {α : Type} (accept : Number → Option α) : Reader α := fun input =>
  match dropBlanks input with
  | [] => .error .eof
  | code :: rest =>
      if code = byte '-' ∨ isDigit code then do
        let (number, rest) ← readNumber (code :: rest)
        match accept number with
        | some value => pure (value, rest)
        | none => throw .data
      else
        .error (mismatch code rest)

/-- Reads a 32-bit whole number. -/
def readUInt32 : Reader UInt32 :=
  readNumeric fun
    | .natural value => if value < UInt32.size then some (UInt32.ofNat value) else none
    | _ => none

/-- Reads a 32-bit binary number. -/
def readBinary32 : Reader Binary32 :=
  readNumeric fun number => some number.toBinary32

/-- Reads a text. -/
def readString : Reader String := fun input =>
  match dropBlanks input with
  | [] => .error .eof
  | code :: rest => if code = byte '"' then readText rest else .error (mismatch code rest)

/-! ## Lists -/

/-- Where the next element of a list starts, or nothing at the end of the list. -/
def nextElement? (first : Bool) (input : Bytes) : Except Fault (Option Bytes) :=
  match dropBlanks input with
  | [] => .error .eof
  | code :: rest =>
      if code = byte ']' then .ok none
      else if first then .ok (some (code :: rest))
      else if code = byte ',' then
        match dropBlanks rest with
        | [] => .error .eof
        | next :: rest =>
            if next = byte ']' then .error .syntaxError else .ok (some (next :: rest))
      else .error .syntaxError

/-- What is left behind a closing bracket, which has to come next. -/
def closeWith (bracket : Bracket) (input : Bytes) : Except Fault Bytes :=
  expect [bracket.closing] (dropBlanks input)

/-- The elements of a list up to its end. Each takes a byte at least, so a budget of one more than
the bytes is never used up. -/
def readElements {α : Type} (read : Reader α) : (budget : Nat) → (first : Bool) → Reader (List α)
  | 0, _, _ => .error .eof
  | budget + 1, first, input => do
      match ← nextElement? first input with
      | none => pure ([], input)
      | some rest =>
          let (element, rest) ← read rest
          let (elements, rest) ← readElements read budget false rest
          pure (element :: elements, rest)

/-- Reads a list. -/
def readList {α : Type} (read : Reader α) : Reader (List α) := fun input =>
  match dropBlanks input with
  | [] => .error .eof
  | code :: rest =>
      if code = byte '[' then do
        let (elements, rest) ← readElements read (rest.length + 1) true rest
        pure (elements, ← closeWith .list rest)
      else
        .error (mismatch code rest)

/-! ## Records of two fields -/

/-- A field of a record. -/
structure RecordField (α : Type) where
  /-- The name of the field. -/
  name : String
  /-- Reads the value of the field. -/
  read : Reader α
  /-- The value of a field that is missing, if it may be. -/
  unset : Option α

/-- The fields of a record written as a list, of which later ones may be missing. -/
def readPositions {α β : Type} (left : RecordField α) (right : RecordField β) :
    Reader (Option α × Option β) := fun input => do
  match ← nextElement? true input with
  | none => pure ((none, none), input)
  | some rest =>
      let (leftValue, behind) ← left.read rest
      match ← nextElement? false behind with
      | none => pure ((some leftValue, none), behind)
      | some rest =>
          let (rightValue, behind) ← right.read rest
          pure ((some leftValue, some rightValue), behind)

/-- Reads the name of a member of an object. Nothing but a string can be one. -/
def readMemberName : Reader String := fun input =>
  match dropBlanks input with
  | [] => .error .eof
  | code :: rest => if code = byte '"' then readText rest else .error .syntaxError

/-- The name of the next member of an object and what is left behind it, or nothing at the end. -/
def nextName? (first : Bool) (input : Bytes) : Except Fault (Option (String × Bytes)) :=
  match dropBlanks input with
  | [] => .error .eof
  | code :: rest =>
      if code = byte '}' then .ok none
      else if first then some <$> readMemberName (code :: rest)
      else if code = byte ',' then some <$> readMemberName rest
      else .error .syntaxError

/-- Reads the value of a field unless the field has one. -/
def readMember {α : Type} (field : RecordField α) (value : Option α) : Reader α := fun input =>
  if value.isSome then .error .data else do field.read (← expectColon input)

/-- The members of an object up to its end. Each takes a byte at least, so a budget of one more than
the bytes is never used up. -/
def readMembers {α β : Type} (left : RecordField α) (right : RecordField β) :
    (budget : Nat) → (first : Bool) → Option α → Option β → Reader (Option α × Option β)
  | 0, _, _, _, _ => .error .eof
  | budget + 1, first, leftValue, rightValue, input => do
      match ← nextName? first input with
      | none => pure ((leftValue, rightValue), input)
      | some (name, rest) =>
          if name = left.name then
            let (value, rest) ← readMember left leftValue rest
            readMembers left right budget false (some value) rightValue rest
          else if name = right.name then
            let (value, rest) ← readMember right rightValue rest
            readMembers left right budget false leftValue (some value) rest
          else
            let rest ← skipValue (budget + 1) (← expectColon rest)
            readMembers left right budget false leftValue rightValue rest

/-- The values of both fields; a missing one is a fault unless it may be missing. -/
def complete {α β : Type} (left : RecordField α) (right : RecordField β)
    (values : Option α × Option β) : Except Fault (α × β) :=
  match values.1.or left.unset, values.2.or right.unset with
  | some leftValue, some rightValue => .ok (leftValue, rightValue)
  | _, _ => .error .data

/-- Reads a record of two fields. -/
def readRecord {α β : Type} (left : RecordField α) (right : RecordField β) :
    Reader (α × β) := fun input =>
  match dropBlanks input with
  | [] => .error .eof
  | code :: rest =>
      if code = byte '[' then do
        let (values, rest) ← readPositions left right rest
        let record ← complete left right values
        pure (record, ← closeWith .list rest)
      else if code = byte '{' then do
        let (values, rest) ← readMembers left right (rest.length + 1) true none none rest
        let record ← complete left right values
        pure (record, ← closeWith .record rest)
      else
        .error (mismatch code rest)

/-! ## Names -/

/-- The alternative with the given name. -/
def choose {α : Type} (name : α → String) (all : List α) (text : String) : Except Fault α :=
  match all.find? fun alternative => name alternative == text with
  | some alternative => .ok alternative
  | none => .error .data

/-- Reads the value `null`. -/
def readNull : Reader Unit := fun input =>
  match dropBlanks input with
  | [] => .error .eof
  | code :: rest =>
      if code = byte 'n' then do pure ((), ← expect (bytesOf "null") (code :: rest))
      else .error (mismatch code rest)

/-- Reads one of a few alternatives by its name. -/
def readName {α : Type} (name : α → String) (all : List α) : Reader α := fun input =>
  match dropBlanks input with
  | [] => .error .eof
  | code :: rest =>
      if code = byte '"' then do
        let (text, rest) ← readText rest
        pure (← choose name all text, rest)
      else if code = byte '{' then do
        let (text, rest) ← readMemberName rest
        let alternative ← choose name all text
        let ((), rest) ← readNull (← expectColon rest)
        pure (alternative, ← closeWith .record rest)
      else
        .error .syntaxError

/-! ## Documents -/

/-- Reads a whole document. -/
def readDocument {α : Type} (read : Reader α) (input : Bytes) : Except Fault α := do
  let (value, rest) ← read input
  if dropBlanks rest = [] then pure value else throw .syntaxError

end GridWalk.Json
