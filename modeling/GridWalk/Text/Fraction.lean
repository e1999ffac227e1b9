import GridWalk.Number.Decimal
import GridWalk.Text.Numeral
import GridWalk.Text.Split

/-!
# Fractions

Numbers of the 64-bit format in decimal writing: a sign, digits with a point somewhere among them,
and a power of ten, of which only one digit is needed. Infinity and what is not a number are written
as words. Every other number is the nearest to what is written.
-/

namespace GridWalk.Text

/-- Whether the sign in front is a minus sign, and what is left behind it. -/
def splitSign : List Char → Bool × List Char
  | '-' :: rest => (true, rest)
  | '+' :: rest => (false, rest)
  | text => (false, text)

/-- The parts of a text around the first delimiter, the second being absent without one. -/
def splitOptional (isDelimiter : Char → Bool) (text : List Char) :
    List Char × Option (List Char) :=
  match splitFirst isDelimiter text with
  | some (before, after) => (before, some after)
  | none => (text, none)

/-- The power of ten that stands behind the exponent letter. -/
def readPower (text : List Char) : Option Int := do
  let (negative, digits) := splitSign text
  let magnitude ← readDigits digits
  pure (if negative then -(magnitude : Int) else magnitude)

/-- The number without a sign that a text writes. -/
def readDecimal (text : List Char) : Option Decimal := do
  let (significand, power) := splitOptional (fun symbol => symbol = 'e' ∨ symbol = 'E') text
  let (whole, places) := splitOptional (· = '.') significand
  let places := places.getD []
  let coefficient ← readDigits (whole ++ places)
  let exponent ← power.elim (some 0) readPower
  pure ⟨coefficient, exponent - places.length⟩

/-- The number of the 64-bit format that a text writes. -/
def readBinary64 (text : List Char) : Option Binary64 :=
  let (negative, unsigned) := splitSign text
  let word := String.ofList (unsigned.map Char.toLower)
  if word = "inf" ∨ word = "infinity" then
    some (.ofValue (.infinite negative))
  else if word = "nan" then
    some (.ofValue .nan)
  else
    (readDecimal unsigned).map fun decimal =>
      .ofValue (BinaryFormat.double.ofDecimal negative decimal)

end GridWalk.Text
