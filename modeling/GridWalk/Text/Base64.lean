/-!
# Base64

Bytes written in the standard alphabet of 64 symbols without padding. Three bytes make four symbols;
one or two bytes at the end make two or three symbols, whose unused bits have to be zero. Reading
accepts exactly what writing produces.
-/

namespace GridWalk.Base64

/-- The symbols in the order of their values. -/
def alphabet : List Char :=
  "ABCDEFGHIJKLMNOPQRSTUVWXYZabcdefghijklmnopqrstuvwxyz0123456789+/".toList

/-- The symbol of a value below 64. -/
def symbol (value : Nat) : Char := alphabet.getD value 'A'

/-- The value of a symbol. -/
def value? (symbol : Char) : Option Nat := alphabet.idxOf? symbol

/-- The three symbols of two bytes and of the two upper bits of the byte behind them. -/
def symbolsOf (first second upper : Nat) : List Char :=
  [symbol (first / 4), symbol (first % 4 * 16 + second / 16), symbol (second % 16 * 4 + upper)]

/-- The symbols that bytes are written with. -/
def encode : List UInt8 → List Char
  | first :: second :: third :: rest =>
      symbolsOf first.toNat second.toNat (third.toNat / 64) ++
        symbol (third.toNat % 64) :: encode rest
  | [first, second] => symbolsOf first.toNat second.toNat 0
  | [first] => (symbolsOf first.toNat 0 0).take 2
  | [] => []

/-- The first byte of a group, from its first two values. -/
def firstByte (one two : Nat) : UInt8 := UInt8.ofNat (one * 4 + two / 16)

/-- The second byte of a group, from its second and third value. -/
def secondByte (two three : Nat) : UInt8 := UInt8.ofNat (two % 16 * 16 + three / 4)

/-- The third byte of a group, from its third and fourth value. -/
def thirdByte (three four : Nat) : UInt8 := UInt8.ofNat (three % 4 * 64 + four)

/-- The bytes that a row of values stands for, unless its length or an unused bit forbids it. -/
def ofValues : List Nat → Option (List UInt8)
  | one :: two :: three :: four :: rest =>
      (ofValues rest).map fun bytes =>
        firstByte one two :: secondByte two three :: thirdByte three four :: bytes
  | [one, two, three] =>
      if three % 4 = 0 then some [firstByte one two, secondByte two three] else none
  | [one, two] => if two % 16 = 0 then some [firstByte one two] else none
  | [_] => none
  | [] => some []

/-- The bytes that symbols stand for, if they are the written form of any. -/
def decode (text : List Char) : Option (List UInt8) :=
  (text.mapM value?).bind ofValues

end GridWalk.Base64
