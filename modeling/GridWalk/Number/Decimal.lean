import GridWalk.Number.Binary

/-!
# Decimal numbers

Decimal numbers are the written form of binary ones. Reading rounds a decimal number to a format;
writing chooses the fewest digits that read back, and among the numbers of so many digits the one
nearest to the value.
-/

namespace GridWalk

/-- The non-negative number `coefficient · 10 ^ exponent`. -/
structure Decimal where
  /-- The digits, read as one whole number. -/
  coefficient : Nat
  /-- The power of ten of the last digit. -/
  exponent : Int
  deriving DecidableEq, Repr

namespace Decimal

/-- The number as a quotient of `numerator` and `denominator`. -/
def numerator (decimal : Decimal) : Nat :=
  decimal.coefficient * Nat.pow 10 decimal.exponent.toNat

/-- The power of ten that divides `numerator`. -/
def denominator (decimal : Decimal) : Nat :=
  Nat.pow 10 (-decimal.exponent).toNat

/-- The digits of a natural number, the most significant first. -/
def digits (value : Nat) : List Char :=
  Nat.toDigits 10 value

/-- How many digits a natural number has; zero has one. -/
def digitCount (value : Nat) : Nat :=
  (digits value).length

/-- The same number without trailing zeros in the coefficient. -/
def normalize (decimal : Decimal) : Decimal :=
  if decimal.coefficient = 0 then
    ⟨0, 0⟩
  else if decimal.coefficient % 10 = 0 then
    normalize ⟨decimal.coefficient / 10, decimal.exponent + 1⟩
  else
    decimal
termination_by decimal.coefficient
decreasing_by omega

/-- The power of ten of the first digit. -/
def leadingExponent (decimal : Decimal) : Int :=
  decimal.exponent + digitCount decimal.coefficient - 1

/-- The written form with no exponent: whole numbers without a point, others with as many places
as the coefficient asks for. -/
def toPlain (decimal : Decimal) : List Char :=
  let written := digits decimal.coefficient
  let places := (-decimal.exponent).toNat
  if places = 0 then
    written ++ List.replicate decimal.exponent.toNat '0'
  else
    let padded := List.replicate (places + 1 - written.length) '0' ++ written
    padded.take (padded.length - places) ++ '.' :: padded.drop (padded.length - places)

end Decimal

/-- Which neighbour is written when a value lies halfway between the two. -/
inductive DecimalTie where
  /-- The neighbour with an even last digit. -/
  | toEven
  /-- The greater neighbour. -/
  | upward
  deriving DecidableEq, Repr

namespace BinaryFormat

/-- The number of the format nearest to a signed decimal number.

Exponents too far from zero to matter are answered without computing the power of ten. -/
def ofDecimal (format : BinaryFormat) (negative : Bool) (decimal : Decimal) : BinaryValue :=
  if decimal.coefficient = 0 ∨ decimal.leadingExponent < -(format.scale : Int) - 1 then
    .finite negative 0
  else if (Nat.pow 2 (format.exponentBits - 1) : Int) < decimal.leadingExponent then
    .infinite negative
  else
    format.ofRatio negative decimal.numerator decimal.denominator

/-- Whether a decimal number rounds to the given count of units. -/
def readsBack (format : BinaryFormat) (units : Nat) (decimal : Decimal) : Bool :=
  format.ofRatio false decimal.numerator decimal.denominator = .finite false units

/-- The power of ten of the first digit of a positive count of units. -/
def leadingExponent (format : BinaryFormat) (units : Nat) : Int :=
  if format.one ≤ units then
    (Decimal.digitCount (units / format.one) : Int) - 1
  else
    -(Decimal.digitCount ((format.one + units - 1) / units - 1) : Int)

/-- The decimal number with last digit at `position` that reads back and lies nearest, if one
does. Only the two neighbours of the value on that grid can. -/
def nearestAt (format : BinaryFormat) (tie : DecimalTie) (units : Nat) (position : Int) :
    Option Decimal :=
  let numerator := units * Nat.pow 10 (-position).toNat
  let denominator := format.one * Nat.pow 10 position.toNat
  let quotient := numerator / denominator
  let twiceRest := 2 * (numerator % denominator)
  let below : Decimal := ⟨quotient, position⟩
  let above : Decimal := ⟨quotient + 1, position⟩
  let upward : Bool :=
    if twiceRest = denominator then
      match tie with
      | .toEven => quotient % 2 == 1
      | .upward => true
    else
      decide (denominator < twiceRest)
  match format.readsBack units below, format.readsBack units above with
  | true, true => some (if upward then above else below)
  | true, false => some below
  | false, true => some above
  | false, false => none

/-- The first hit on ever finer decimal grids, at most `budget` of them. -/
def shortestFrom (format : BinaryFormat) (tie : DecimalTie) (units : Nat) :
    (budget : Nat) → (position : Int) → Decimal
  | 0, position =>
      ⟨units * Nat.pow 10 (-position).toNat / (format.one * Nat.pow 10 position.toNat), position⟩
  | budget + 1, position =>
      (format.nearestAt tie units position).getD
        (format.shortestFrom tie units budget (position - 1))

/-- The decimal number of fewest digits that reads back as `units`, without trailing zeros. -/
def shortest (format : BinaryFormat) (tie : DecimalTie) (units : Nat) : Decimal :=
  if units = 0 then
    ⟨0, 0⟩
  else
    (format.shortestFrom tie units format.precision (format.leadingExponent units)).normalize

/-- A value in plain decimal writing: the fewest digits that read back and never an exponent. -/
def toPlain (format : BinaryFormat) : BinaryValue → List Char
  | .nan => ['N', 'a', 'N']
  | .infinite negative => (if negative then ['-'] else []) ++ ['i', 'n', 'f']
  | .finite negative units =>
      (if negative then ['-'] else []) ++ (format.shortest .upward units).toPlain

end BinaryFormat

/-- The number in plain decimal writing. -/
def Binary32.toPlain (number : Binary32) : String :=
  String.ofList (BinaryFormat.single.toPlain number.value)

/-- The number in plain decimal writing. -/
def Binary64.toPlain (number : Binary64) : String :=
  String.ofList (BinaryFormat.double.toPlain number.value)

end GridWalk
