import GridWalk.Number.Length
import GridWalk.Number.Rounding

/-!
# Binary interchange numbers

The two IEEE 754 formats that maps and measurements use. A finite number of a format is a sign and a
natural number of units, the unit being the least positive number of the format. Each operation is
the exact one followed by a rounding to nearest, a tie going to the even neighbour.
-/

namespace GridWalk

/-- Widths of a binary interchange format. -/
structure BinaryFormat where
  /-- Significant bits, the leading one included. -/
  precision : Nat
  /-- Width of the exponent field. -/
  exponentBits : Nat
  deriving DecidableEq, Repr

/-- What the bit pattern of a binary number stands for. -/
inductive BinaryValue where
  /-- Not a number. -/
  | nan
  /-- An infinity. -/
  | infinite (negative : Bool)
  /-- A finite number as a count of the format's least positive number. -/
  | finite (negative : Bool) (units : Nat)
  deriving DecidableEq, Repr

namespace BinaryFormat

/-- The 32-bit format. -/
def single : BinaryFormat := ⟨24, 8⟩

/-- The 64-bit format. -/
def double : BinaryFormat := ⟨53, 11⟩

/-- Stored bits of the significand. -/
def fractionBits (format : BinaryFormat) : Nat := format.precision - 1

/-- The exponent field of infinities and of what is not a number. -/
def topExponent (format : BinaryFormat) : Nat := Nat.pow 2 format.exponentBits - 1

/-- The least positive number is `2 ^ (-scale)`. -/
def scale (format : BinaryFormat) : Nat :=
  Nat.pow 2 (format.exponentBits - 1) - 2 + format.fractionBits

/-- The units of the number one. -/
def one (format : BinaryFormat) : Nat := Nat.pow 2 format.scale

/-- The least count of units that is too great for a finite number. -/
def overflow (format : BinaryFormat) : Nat :=
  Nat.pow 2 (Nat.pow 2 (format.exponentBits - 1)) * format.one

/-- The value of a bit pattern. -/
def decode (format : BinaryFormat) (bits : Nat) : BinaryValue :=
  let hidden := Nat.pow 2 format.fractionBits
  let fraction := bits % hidden
  let exponent := bits / hidden % Nat.pow 2 format.exponentBits
  let negative := bits / hidden / Nat.pow 2 format.exponentBits % 2 = 1
  if exponent = format.topExponent then
    if fraction = 0 then .infinite negative else .nan
  else if exponent = 0 then
    .finite negative fraction
  else
    .finite negative ((hidden + fraction) * Nat.pow 2 (exponent - 1))

/-- The bit pattern of a value. What is not a number has one pattern, the quiet one. -/
def encode (format : BinaryFormat) (value : BinaryValue) : Nat :=
  let hidden := Nat.pow 2 format.fractionBits
  let sign (negative : Bool) := if negative then Nat.pow 2 format.exponentBits * hidden else 0
  match value with
  | .nan => format.topExponent * hidden + hidden / 2
  | .infinite negative => sign negative + format.topExponent * hidden
  | .finite negative units =>
      let exponent := Rounding.excessBits format.precision units
      sign negative + exponent * hidden + units / Nat.pow 2 exponent

/-- The number nearest to a signed count of units, given as a quotient. -/
def round (format : BinaryFormat) (negative : Bool) (numerator denominator : Nat) : BinaryValue :=
  let units := Rounding.toSignificant format.precision numerator denominator
  if format.overflow ≤ units then .infinite negative else .finite negative units

/-- The number nearest to `numerator / denominator`. -/
def ofRatio (format : BinaryFormat) (negative : Bool) (numerator denominator : Nat) : BinaryValue :=
  format.round negative (numerator * format.one) denominator

/-- The rounded product of two numbers. -/
def multiply (format : BinaryFormat) : BinaryValue → BinaryValue → BinaryValue
  | .nan, _ | _, .nan => .nan
  | .infinite left, .infinite right => .infinite (left != right)
  | .infinite left, .finite right units | .finite right units, .infinite left =>
      if units = 0 then .nan else .infinite (left != right)
  | .finite left leftUnits, .finite right rightUnits =>
      format.round (left != right) (leftUnits * rightUnits) format.one

/-- The rounded quotient of a number and a finite positive one of `divisor` units. -/
def divide (format : BinaryFormat) (value : BinaryValue) (divisor : Nat) : BinaryValue :=
  match value with
  | .nan => .nan
  | .infinite negative => .infinite negative
  | .finite negative units => format.round negative (units * format.one) divisor

/-- The number of `target` nearest to a number of `source`. -/
def convert (source target : BinaryFormat) : BinaryValue → BinaryValue
  | .nan => .nan
  | .infinite negative => .infinite negative
  | .finite negative units => target.ofRatio negative units source.one

end BinaryFormat

/-- A number of the 32-bit format. -/
structure Binary32 where
  /-- The bit pattern. -/
  bits : UInt32
  deriving DecidableEq, Repr

namespace Binary32

/-- The value of the bit pattern. -/
def value (number : Binary32) : BinaryValue :=
  BinaryFormat.single.decode number.bits.toNat

/-- The number with the given value, which is one of the 32-bit format. -/
def ofValue (value : BinaryValue) : Binary32 :=
  ⟨UInt32.ofNat (BinaryFormat.single.encode value)⟩

/-- The number nearest to a natural number. -/
def ofNat (value : Nat) : Binary32 :=
  ofValue (BinaryFormat.single.ofRatio false value 1)

/-- The rounded product. -/
def multiply (left right : Binary32) : Binary32 :=
  ofValue (BinaryFormat.single.multiply left.value right.value)

/-- Whether the number is finite and greater than zero. -/
def isPositiveFinite (number : Binary32) : Bool :=
  match number.value with
  | .finite false units => units ≠ 0
  | _ => false

end Binary32

/-- A number of the 64-bit format. -/
structure Binary64 where
  /-- The bit pattern. -/
  bits : UInt64
  deriving DecidableEq, Repr

namespace Binary64

/-- The value of the bit pattern. -/
def value (number : Binary64) : BinaryValue :=
  BinaryFormat.double.decode number.bits.toNat

/-- The number with the given value, which is one of the 64-bit format. -/
def ofValue (value : BinaryValue) : Binary64 :=
  ⟨UInt64.ofNat (BinaryFormat.double.encode value)⟩

/-- A length as a 64-bit number. -/
def ofLength (length : Length) : Binary64 :=
  ofValue (BinaryFormat.double.ofRatio false length.units Length.unitsPerOne)

end Binary64

end GridWalk
