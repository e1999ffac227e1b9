/-!
# A seeded stream of random words

The ChaCha stream cipher with eight rounds, used as a generator: the key comes from a seed of 64
bits, the block counter starts at zero and the stream number is zero. The words of each block are
handed out in order.
-/

namespace GridWalk.ChaCha

/-- A word rotated toward its high end. -/
def rotateLeft (word : UInt32) (places : UInt32) : UInt32 :=
  (word <<< places) ||| (word >>> (32 - places))

/-! ## Keys -/

/-- The next state of the generator that stretches a seed to a key. -/
def stretchState (state : UInt64) : UInt64 :=
  state * 6364136223846793005 + 11634580027462260723

/-- The word that a state of the stretching generator gives: its upper bits folded together and
rotated by the uppermost ones. -/
def stretchWord (state : UInt64) : UInt32 :=
  let folded := (((state >>> 18) ^^^ state) >>> 27).toUInt32
  let places := (state >>> 59).toUInt32
  rotateLeft folded ((32 - places) % 32)

/-- The words that follow a state. -/
def stretch : (count : Nat) → UInt64 → List UInt32
  | 0, _ => []
  | count + 1, state =>
      let next := stretchState state
      stretchWord next :: stretch count next

/-- The key of a seed. -/
def keyOf (seed : UInt64) : List UInt32 := stretch 8 seed

/-! ## Blocks -/

/-- The sixteen words of a block. -/
abbrev Block := Vector UInt32 16

/-- The constant words in front of the key. -/
def constants : List UInt32 := [0x61707865, 0x3320646e, 0x79622d32, 0x6b206574]

/-- The words that the rounds start from. -/
def start (key : List UInt32) (counter : UInt64) : Block :=
  let words :=
    constants ++ key ++ [counter.toUInt32, (counter >>> 32).toUInt32, 0, 0]
  Vector.ofFn fun index => words.getD index.val 0

/-- Mixes four words of a block. -/
def quarterRound (block : Block) (a b c d : Fin 16) : Block :=
  let mix (block : Block) (target other changed : Fin 16) (places : UInt32) : Block :=
    let block := block.set target (block[target] + block[other])
    block.set changed (rotateLeft (block[changed] ^^^ block[target]) places)
  let block := mix block a b d 16
  let block := mix block c d b 12
  let block := mix block a b d 8
  mix block c d b 7

/-- Mixes the columns of a block and then its diagonals. -/
def doubleRound (block : Block) : Block :=
  [((0 : Fin 16), (4 : Fin 16), (8 : Fin 16), (12 : Fin 16)), (1, 5, 9, 13), (2, 6, 10, 14),
    (3, 7, 11, 15), (0, 5, 10, 15), (1, 6, 11, 12), (2, 7, 8, 13), (3, 4, 9, 14)].foldl
      (fun block (a, b, c, d) => quarterRound block a b c d) block

/-- The words of a block: eight rounds, added to what they started from. -/
def block (key : List UInt32) (counter : UInt64) : Block :=
  let first := start key counter
  let mixed := Nat.repeat doubleRound 4 first
  Vector.zipWith (· + ·) mixed first

/-! ## Streams -/

/-- A place in the stream of a key. -/
structure Stream where
  /-- The key. -/
  key : List UInt32
  /-- The number of the block behind `waiting`. -/
  counter : UInt64
  /-- The words left of the current block. -/
  waiting : List UInt32

/-- The start of the stream of a seed. -/
def Stream.ofSeed (seed : UInt64) : Stream := ⟨keyOf seed, 0, []⟩

/-- The next word of a stream. -/
def Stream.next (stream : Stream) : UInt32 × Stream :=
  match stream.waiting with
  | word :: waiting => (word, { stream with waiting := waiting })
  | [] =>
      let words := block stream.key stream.counter
      (words[0], ⟨stream.key, stream.counter + 1, words.toList.tail⟩)

/-- The next two words of a stream as one number, the low half first. -/
def Stream.nextLong (stream : Stream) : Nat × Stream :=
  let (low, stream) := stream.next
  let (high, stream) := stream.next
  (high.toNat * UInt32.size + low.toNat, stream)

end GridWalk.ChaCha
