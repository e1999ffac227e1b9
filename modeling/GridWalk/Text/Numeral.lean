/-!
# Numerals

Unsigned whole numbers in decimal writing: an optional plus sign and at least one ASCII digit, with
a value below a limit. Leading zeros are allowed.
-/

namespace GridWalk.Text

/-- Whether a character is one of the ten ASCII digits. -/
def isDigit (symbol : Char) : Bool :=
  '0' ≤ symbol && symbol ≤ '9'

/-- The value of a digit. -/
def digitValue (symbol : Char) : Nat :=
  symbol.toNat - '0'.toNat

/-- The number that a row of digits writes. -/
def digitsValue (text : List Char) : Nat :=
  text.foldl (fun value symbol => 10 * value + digitValue symbol) 0

/-- The number written by a row of digits that is not empty. -/
def readDigits (text : List Char) : Option Nat :=
  if text ≠ [] ∧ text.all isDigit then some (digitsValue text) else none

/-- The text behind an optional plus sign. -/
def dropPlus : List Char → List Char
  | '+' :: rest => rest
  | text => text

/-- The whole number below `limit` that the text writes. -/
def readNumeral (limit : Nat) (text : List Char) : Option Nat :=
  (readDigits (dropPlus text)).filter (· < limit)

/-- The 32-bit number that the text writes. -/
def readUInt32 (text : List Char) : Option UInt32 :=
  (readNumeral UInt32.size text).map UInt32.ofNat

end GridWalk.Text
