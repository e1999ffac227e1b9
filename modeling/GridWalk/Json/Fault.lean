/-!
# Reading JSON

Readers take the bytes that are left of a document and give a value with the bytes behind it. A
document is read from front to back, and the first fault met on the way is the answer.
-/

namespace GridWalk.Json

/-- What is wrong with a document. -/
inductive Fault where
  /-- It ends inside a value. -/
  | eof
  /-- It is not JSON. -/
  | syntaxError
  /-- It is JSON of another shape than wanted. -/
  | data
  deriving DecidableEq, Repr

/-- The name of the kind of fault. -/
def Fault.name : Fault → String
  | eof => "eof"
  | syntaxError => "syntax"
  | data => "data"

/-- Bytes that are still to be read. -/
abbrev Bytes := List UInt8

/-- The byte of an ASCII character. -/
def byte (symbol : Char) : UInt8 := symbol.toUInt8

/-- The bytes of a text. -/
def bytesOf (text : String) : Bytes := text.toUTF8.toList

/-- Whether a byte may stand between the parts of a document. -/
def isBlank (code : UInt8) : Bool :=
  code == byte ' ' || code == byte '\t' || code == byte '\n' || code == byte '\r'

/-- Whether a byte is an ASCII digit. -/
def isDigit (code : UInt8) : Bool :=
  byte '0' ≤ code && code ≤ byte '9'

/-- The value of a digit. -/
def digitValue (code : UInt8) : Nat :=
  code.toNat - (byte '0').toNat

/-- What is left behind blank bytes. -/
def dropBlanks (input : Bytes) : Bytes :=
  input.dropWhile isBlank

/-- What is left behind the given bytes, which have to come next. -/
def expect : (word input : Bytes) → Except Fault Bytes
  | [], input => .ok input
  | _ :: _, [] => .error .eof
  | wanted :: word, code :: input =>
      if code = wanted then expect word input else .error .syntaxError

/-- What is left behind the colon between a name and its value. -/
def expectColon (input : Bytes) : Except Fault Bytes :=
  expect [byte ':'] (dropBlanks input)

/-- The words `null`, `true` and `false`, told apart by their first byte. -/
def wordOf? (code : UInt8) : Option Bytes :=
  ["null", "true", "false"].map bytesOf |>.find? (·.head? == some code)

end GridWalk.Json

namespace GridWalk

universe u

instance decidableEqExcept {ε α : Type u} [DecidableEq ε] [DecidableEq α] :
    DecidableEq (Except ε α)
  | .error left, .error right => decidable_of_iff (left = right) (by simp)
  | .error _, .ok _ => isFalse nofun
  | .ok _, .error _ => isFalse nofun
  | .ok left, .ok right => decidable_of_iff (left = right) (by simp)

@[simp]
theorem pure_eq_ok {ε α : Type u} (value : α) : (pure value : Except ε α) = .ok value := rfl

@[simp]
theorem throw_eq_error {ε α : Type u} (fault : ε) : (throw fault : Except ε α) = .error fault := rfl

@[simp]
theorem error_bind {ε α β : Type u} (fault : ε) (second : α → Except ε β) :
    Except.error fault >>= second = .error fault := rfl

@[simp]
theorem ok_bind {ε α β : Type u} (value : α) (second : α → Except ε β) :
    Except.ok value >>= second = second value := rfl

/-- Two steps in a row succeed exactly if the first does and the second does with its value. -/
theorem bind_eq_ok_iff {ε α β : Type u} {first : Except ε α} {second : α → Except ε β}
    {result : β} :
    first >>= second = .ok result ↔ ∃ value, first = .ok value ∧ second value = .ok result := by
  cases first <;> simp [bind, Except.bind]

end GridWalk
