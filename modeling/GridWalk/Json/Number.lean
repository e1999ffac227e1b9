import GridWalk.Json.Fault
import GridWalk.Number.Decimal

/-!
# JSON numbers

A number without a fraction and an exponent is a whole number if 64 bits hold it. Any other is a
binary number, made from the leading digits that 64 bits hold and one rounded multiplication or
division by a power of ten. The written form of a 32-bit number has the fewest digits that read
back.
-/

namespace GridWalk.Json

/-- A number as read. -/
inductive Number where
  /-- A whole number from zero on. -/
  | natural (value : Nat)
  /-- A whole number below zero, given by its distance from zero. -/
  | negative (distance : Nat)
  /-- A binary number of the 64-bit format. -/
  | binary (value : BinaryValue)
  deriving DecidableEq, Repr

/-- How many values 64 bits have. -/
def significandLimit : Nat := UInt64.size

/-- The greatest power of ten that the 64-bit format holds. -/
def mostTens : Nat := 308

/-- A power of ten as units of the 64-bit format. -/
def tenUnits (power : Nat) : Nat :=
  match BinaryFormat.double.ofRatio false (Nat.pow 10 power) 1 with
  | .finite _ units => units
  | _ => 0

/-- A value times a power of ten, by rounded operations. Powers too great for the format divide in
several steps; a product too great for the format is a fault. -/
def scaleByTens (value : BinaryValue) (exponent : Int) : Except Fault BinaryValue :=
  if exponent.natAbs ≤ mostTens then
    if 0 ≤ exponent then
      match BinaryFormat.double.multiply value (.finite false (tenUnits exponent.natAbs)) with
      | .infinite _ => .error .syntaxError
      | product => .ok product
    else
      .ok (BinaryFormat.double.divide value (tenUnits exponent.natAbs))
  else if value = .finite false 0 then
    .ok value
  else if 0 ≤ exponent then
    .error .syntaxError
  else
    scaleByTens (BinaryFormat.double.divide value (tenUnits mostTens)) (exponent + mostTens)
termination_by exponent.natAbs
decreasing_by
  simp only [mostTens] at *
  omega

/-- The value with the given sign. -/
def withSign (negative : Bool) : BinaryValue → BinaryValue
  | .finite _ units => .finite negative units
  | .infinite _ => .infinite negative
  | .nan => .nan

/-- The number `significand · 10 ^ exponent`. -/
def ofParts (negative : Bool) (significand : Nat) (exponent : Int) : Except Fault Number := do
  let value := BinaryFormat.double.ofRatio false significand 1
  pure (.binary (withSign negative (← scaleByTens value exponent)))

/-- Lets digits join a significand while 64 bits hold it, and counts those that did and those that
stay behind. -/
def gather (significand : Nat) : Bytes → Nat × Nat × Nat
  | [] => (significand, 0, 0)
  | code :: digits =>
      let longer := 10 * significand + digitValue code
      if longer < significandLimit then
        let (final, joined, left) := gather longer digits
        (final, joined + 1, left)
      else
        (significand, 0, digits.length + 1)

/-- The digits at the front and what is left behind them. -/
def splitDigits (input : Bytes) : Bytes × Bytes :=
  (input.takeWhile isDigit, input.dropWhile isDigit)

/-- The digits of a whole part: a single zero, or digits that start with another one. `missing` is
the fault of a document that ends before the first. -/
def readWhole (missing : Fault) (input : Bytes) : Except Fault (Bytes × Bytes) :=
  match splitDigits input with
  | ([], []) => .error missing
  | ([], _) => .error .syntaxError
  | (first :: rest, behind) =>
      if first = byte '0' ∧ rest ≠ [] then .error .syntaxError
      else .ok (first :: rest, behind)

/-- The digits behind a point or an exponent letter, of which there has to be one. -/
def readSome (missing : Fault) (input : Bytes) : Except Fault (Bytes × Bytes) :=
  match splitDigits input with
  | ([], []) => .error missing
  | ([], _) => .error .syntaxError
  | (digits, behind) => .ok (digits, behind)

/-- The digits of a fraction, if a point comes next. -/
def readFraction (missing : Fault) (input : Bytes) : Except Fault (Option Bytes × Bytes) :=
  match input with
  | code :: behind =>
      if code = byte '.' then do
        let (digits, rest) ← readSome missing behind
        pure (some digits, rest)
      else
        pure (none, input)
  | [] => pure (none, [])

/-- What is left behind an optional sign, and whether it was a minus sign. -/
def readSign : Bytes → Bool × Bytes
  | code :: rest =>
      if code = byte '-' then (true, rest)
      else if code = byte '+' then (false, rest)
      else (false, code :: rest)
  | [] => (false, [])

/-- The sign and the digits of an exponent, if an exponent letter comes next. -/
def readExponent (missing : Fault) (input : Bytes) :
    Except Fault (Option (Bool × Bytes) × Bytes) :=
  match input with
  | code :: behind =>
      if code = byte 'e' ∨ code = byte 'E' then do
        let (negative, unsigned) := readSign behind
        let (digits, rest) ← readSome missing unsigned
        pure (some (negative, digits), rest)
      else
        pure (none, input)
  | [] => pure (none, [])

/-- The value of a row of digits. -/
def digitsValue (digits : Bytes) : Nat :=
  digits.foldl (fun value code => 10 * value + digitValue code) 0

/-- The number that a sign and the parts of its digits write. -/
def numberOf (negative : Bool) (whole : Bytes) (fraction : Option Bytes)
    (exponent : Option (Bool × Bytes)) : Except Fault Number :=
  let (significand, _, left) := gather 0 whole
  match fraction, exponent with
  | none, none =>
      if left ≠ 0 then ofParts negative significand left
      else if !negative then .ok (.natural significand)
      else if 0 < significand ∧ significand ≤ significandLimit / 2 then .ok (.negative significand)
      else .ok (.binary (BinaryFormat.double.ofRatio true significand 1))
  | _, _ =>
      let (significand, joined, _) := gather significand (fraction.getD [])
      let shift : Int := match exponent with
        | some (true, digits) => -(digitsValue digits : Int)
        | some (false, digits) => digitsValue digits
        | none => 0
      ofParts negative significand (left - joined + shift)

/-- The number that starts with a digit or a minus sign. -/
def readNumber (input : Bytes) : Except Fault (Number × Bytes) := do
  let negative := input.head? == some (byte '-')
  let (whole, input) ← readWhole .eof (if negative then input.tail else input)
  let (fraction, input) ← readFraction .eof input
  let (exponent, input) ← readExponent .eof input
  pure (← numberOf negative whole fraction exponent, input)

/-- What is left behind a number whose value does not matter. -/
def skipNumber (input : Bytes) : Except Fault Bytes := do
  let input := if input.head? == some (byte '-') then input.tail else input
  let (_, input) ← readWhole .syntaxError input
  let (_, input) ← readFraction .syntaxError input
  let (_, input) ← readExponent .syntaxError input
  pure input

/-- The 32-bit number nearest to a number. -/
def Number.toBinary32 : Number → Binary32
  | .natural value => .ofValue (BinaryFormat.single.ofRatio false value 1)
  | .negative distance => .ofValue (BinaryFormat.single.ofRatio true distance 1)
  | .binary value => .ofValue (BinaryFormat.double.convert .single value)

/-- The least and the greatest power of ten of a first digit that is written without an exponent. -/
def plainExponents : Int × Int := (-6, 12)

/-- The written form of a finite 32-bit number: plain with at least one place, or one digit before
the point and a signed exponent. -/
def writeBinary32 (number : Binary32) : String :=
  match number.value with
  | .finite negative units =>
      let decimal := BinaryFormat.single.shortest .toEven units
      let sign := if negative then "-" else ""
      let leading := decimal.leadingExponent
      if plainExponents.1 ≤ leading ∧ leading ≤ plainExponents.2 then
        let plain := String.ofList decimal.toPlain
        if 0 ≤ decimal.exponent then s!"{sign}{plain}.0" else s!"{sign}{plain}"
      else
        let digits := Decimal.digits decimal.coefficient
        let places := if digits.length = 1 then [] else '.' :: digits.tail
        let mark := if 0 ≤ leading then "+" else "-"
        s!"{sign}{String.ofList (digits.take 1 ++ places)}e{mark}{leading.natAbs}"
  | _ => "null"

end GridWalk.Json
