/-!
# Word arithmetic

Sizes and offsets are held in 64-bit words. Products and sums are exact, or absent where a word
cannot hold them.
-/

namespace GridWalk.Word

/-- How many values a word has. -/
def size : Nat := UInt64.size

/-- The product, if a word holds it. -/
def mul? (left right : Nat) : Option Nat :=
  if left * right < size then some (left * right) else none

/-- The sum, if a word holds it. -/
def add? (left right : Nat) : Option Nat :=
  if left + right < size then some (left + right) else none

theorem mul?_of_lt {left right : Nat} (fits : left * right < size) :
    mul? left right = some (left * right) :=
  if_pos fits

theorem add?_of_lt {left right : Nat} (fits : left + right < size) :
    add? left right = some (left + right) :=
  if_pos fits

end GridWalk.Word
