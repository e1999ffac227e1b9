import GridWalk.Number.Decimal
import GridWalk.Toml.Text
import GridWalk.Toml.Value

/-!
# TOML numbers, dates and words

Whole numbers of 64 bits in four bases, binary fractions, dates and times of day, and the words for
truth values. Underscores may separate digits.
-/

namespace GridWalk.Toml

/-! ## Digits -/

/-- The digits from the front of a text on, with single underscores between them. -/
def moreDigits (isDigit : Char → Bool) : List Char → List Char × List Char
  | '_' :: symbol :: rest =>
      if isDigit symbol then
        let (digits, behind) := moreDigits isDigit rest
        (symbol :: digits, behind)
      else
        ([], '_' :: symbol :: rest)
  | symbol :: rest =>
      if isDigit symbol then
        let (digits, behind) := moreDigits isDigit rest
        (symbol :: digits, behind)
      else
        ([], symbol :: rest)
  | [] => ([], [])

/-- Reads at least one digit. -/
def readDigits (isDigit : Char → Bool) : Reader (List Char)
  | symbol :: rest =>
      if isDigit symbol then
        let (digits, behind) := moreDigits isDigit rest
        some (symbol :: digits, behind)
      else
        none
  | [] => none

/-- Whether a character is a decimal digit. -/
def isDecimal (symbol : Char) : Bool := '0' ≤ symbol && symbol ≤ '9'

/-- The number that digits write in a base. -/
def valueIn (base : Nat) (digits : List Char) : Nat :=
  digits.foldl (fun value symbol => base * value + (hexValue? symbol).getD 0) 0

/-- An optional sign, and whether it is a minus sign. -/
def dropSign : List Char → Bool × List Char
  | '-' :: rest => (true, rest)
  | '+' :: rest => (false, rest)
  | rest => (false, rest)

/-- Reads the digits of a decimal whole number, which has no zeros in front. -/
def readWhole : Reader (List Char)
  | '0' :: rest => some (['0'], rest)
  | input => readDigits isDecimal input

/-! ## Numbers -/

/-- A whole number, if 64 bits with a sign hold it. -/
def integer? (value : Int) : Option Value :=
  if Int64.minValue.toInt ≤ value ∧ value ≤ Int64.maxValue.toInt then some (.integer value)
  else none

/-- Reads the digits of a whole number in another base. -/
def readBased (base : Nat) : Reader Value := fun input => do
  let (digits, rest) ← readDigits (fun symbol => (hexValue? symbol).any (· < base)) input
  pure (← integer? (valueIn base digits), rest)

/-- Reads a whole number. -/
def readInteger : Reader Value
  | '0' :: 'x' :: rest => readBased 16 rest
  | '0' :: 'o' :: rest => readBased 8 rest
  | '0' :: 'b' :: rest => readBased 2 rest
  | input => do
      let (negative, unsigned) := dropSign input
      let (digits, rest) ← readWhole unsigned
      let value : Int := valueIn 10 digits
      pure (← integer? (if negative then -value else value), rest)

/-- Reads the exponent of a fraction. -/
def readExponent : Reader Int
  | letter :: rest =>
      if letter = 'e' ∨ letter = 'E' then do
        let (negative, unsigned) := dropSign rest
        let (digits, rest) ← readDigits isDecimal unsigned
        let value : Int := valueIn 10 digits
        pure (if negative then -value else value, rest)
      else
        none
  | [] => none

/-- Reads the places of a fraction. -/
def readPlaces : Reader (List Char)
  | '.' :: rest => readDigits isDecimal rest
  | _ => none

/-- Reads places, an exponent or both. -/
def readFractionTail : Reader (List Char × Int) := fun input =>
  match readPlaces input with
  | some (places, rest) =>
      match readExponent rest with
      | some (exponent, rest) => some ((places, exponent), rest)
      | none => some ((places, 0), rest)
  | none => do
      let (exponent, rest) ← readExponent input
      pure (([], exponent), rest)

/-- Reads a word, of which nothing is kept. -/
def readWord (word : String) (value : Value) : Reader Value := fun input =>
  if word.toList.isPrefixOf input then some (value, input.drop word.length) else none

/-- Reads a binary fraction. One that rounds to positive infinity is refused; the infinities have a
word of their own. -/
def readFraction : Reader Value := fun input =>
  let (negative, unsigned) := dropSign input
  let written : Option (Value × List Char) := do
    let (whole, rest) ← readWhole unsigned
    let ((places, exponent), rest) ← readFractionTail rest
    let decimal : Decimal := ⟨valueIn 10 (whole ++ places), exponent - places.length⟩
    if BinaryFormat.double.ofDecimal negative decimal = .infinite false then none
    else pure (.fraction, rest)
  written.or ((readWord "inf" .fraction unsigned).or (readWord "nan" .fraction unsigned))

/-! ## Dates and times -/

/-- Reads a number of exactly so many digits within bounds. -/
def readFixed (width least most : Nat) : Reader Nat := fun input =>
  let digits := input.take width
  let value := valueIn 10 digits
  if digits.length = width ∧ digits.all isDecimal ∧ least ≤ value ∧ value ≤ most then
    some (value, input.drop width)
  else
    none

/-- What is left behind a character that has to come next. -/
def readSymbol (symbol : Char) : List Char → Option (List Char)
  | next :: rest => if next = symbol then some rest else none
  | [] => none

/-- How many days a month of a year has. -/
def daysOf (year month : Nat) : Nat :=
  let leap := year % 4 = 0 ∧ (year % 100 ≠ 0 ∨ year % 400 = 0)
  if month = 2 then (if leap then 29 else 28)
  else if month = 4 ∨ month = 6 ∨ month = 9 ∨ month = 11 then 30
  else 31

/-- What is left behind a date. -/
def readDate (input : List Char) : Option (List Char) := do
  let (year, rest) ← readFixed 4 0 9999 input
  let (month, rest) ← readFixed 2 1 12 (← readSymbol '-' rest)
  let (_, rest) ← readFixed 2 1 (daysOf year month) (← readSymbol '-' rest)
  pure rest

/-- What is left behind a time of day. -/
def readTime (input : List Char) : Option (List Char) := do
  let (_, rest) ← readFixed 2 0 23 input
  let (_, rest) ← readFixed 2 0 59 (← readSymbol ':' rest)
  let (_, rest) ← readFixed 2 0 60 (← readSymbol ':' rest)
  match rest with
  | '.' :: places =>
      if places.head?.any isDecimal then pure (places.dropWhile isDecimal) else pure rest
  | _ => pure rest

/-- What is left behind the distance from universal time. -/
def readOffset : List Char → Option (List Char)
  | 'Z' :: rest => some rest
  | 'z' :: rest => some rest
  | sign :: rest =>
      if sign = '+' ∨ sign = '-' then do
        let (_, rest) ← readFixed 2 0 23 rest
        let (_, rest) ← readFixed 2 0 59 (← readSymbol ':' rest)
        pure rest
      else
        none
  | [] => none

/-- What is left behind a time of day that follows a date, with its distance from universal time. -/
def readTimeOfDate : List Char → Option (List Char)
  | mark :: rest =>
      if mark = 'T' ∨ mark = 't' ∨ mark = ' ' then do
        let rest ← readTime rest
        pure ((readOffset rest).getD rest)
      else
        none
  | [] => none

/-- Reads a date, a time of day or both. -/
def readDateTime : Reader Value := fun input =>
  let rest? :=
    match readDate input with
    | some rest => some ((readTimeOfDate rest).getD rest)
    | none => readTime input
  rest?.map fun rest => (.dateTime, rest)

/-! ## Values without parts -/

/-- Reads a value other than an array or a table. -/
def readScalar : Reader Value := fun input =>
  match input.head? with
  | none => none
  | some symbol =>
      if symbol = '"' ∨ symbol = '\'' then
        (readText input).map fun (text, rest) => (.text text, rest)
      else if symbol = '+' ∨ symbol = '-' ∨ isDecimal symbol then
        (readDateTime input).or ((readFraction input).or (readInteger input))
      else
        (readWord "true" (.boolean true) input).or <|
          (readWord "false" (.boolean false) input).or <|
            (readWord "inf" .fraction input).or (readWord "nan" .fraction input)

end GridWalk.Toml
