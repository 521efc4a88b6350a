set_option autoImplicit false

/-! # Random words

Words that look random and depend on a seed of 64 bits alone: the key stream of the ChaCha cipher
with twelve rounds, under a key that a linear congruential generator makes of the seed. -/

namespace LocalPlay.Random

/-! ## The key -/

/-- The step of the generator that stretches a seed to a key. -/
def nextState (s : UInt64) : UInt64 := s * 6364136223846793005 + 11634580027462260723

/-- Turns the bits of a word to the right; the amount counts modulo 32. -/
def rotateRight (x n : UInt32) : UInt32 := (x >>> n) ||| (x <<< (32 - n))

/-- Turns the bits of a word to the left; the amount counts modulo 32. -/
def rotateLeft (x n : UInt32) : UInt32 := (x <<< n) ||| (x >>> (32 - n))

/-- The word that a state of the generator gives: high bits, turned by the highest. -/
def stateWord (s : UInt64) : UInt32 :=
  rotateRight (((s >>> 18) ^^^ s) >>> 27).toUInt32 (s >>> 59).toUInt32

/-- The state of the generator after `n` steps from a seed. -/
def stateAfter (seed : UInt64) : Nat → UInt64
  | 0 => seed
  | n + 1 => nextState (stateAfter seed n)

def key (seed : UInt64) : Vector UInt32 8 := .ofFn fun i => stateWord (stateAfter seed (i + 1))

/-! ## The cipher -/

/-- The state of the cipher: a square of sixteen words, row by row. -/
abbrev Square := Vector UInt32 16

/-- Mixes four words of the square. -/
def quarterRound (x : Square) (a b c d : Fin 16) : Square :=
  let half (x : Square) (n m : UInt32) : Square :=
    let x := x.set a (x[a] + x[b])
    let x := x.set d (rotateLeft (x[d] ^^^ x[a]) n)
    let x := x.set c (x[c] + x[d])
    x.set b (rotateLeft (x[b] ^^^ x[c]) m)
  half (half x 16 12) 8 7

/-- Mixes every column, then every diagonal. -/
def doubleRound (x : Square) : Square :=
  let x := quarterRound x 0 4 8 12
  let x := quarterRound x 1 5 9 13
  let x := quarterRound x 2 6 10 14
  let x := quarterRound x 3 7 11 15
  let x := quarterRound x 0 5 10 15
  let x := quarterRound x 1 6 11 12
  let x := quarterRound x 2 7 8 13
  quarterRound x 3 4 9 14

/-- Mixes the square as often as said. -/
def doubleRounds : Nat → Square → Square
  | 0, x => x
  | n + 1, x => doubleRounds n (doubleRound x)

/-- The square before mixing: constants, the key, the number of the block, and a stream number of
zero. -/
def start (k : Vector UInt32 8) (block : UInt64) : Square :=
  let constants : Vector UInt32 4 := #v[0x61707865, 0x3320646E, 0x79622D32, 0x6B206574]
  let position : Vector UInt32 4 := #v[block.toUInt32, (block >>> 32).toUInt32, 0, 0]
  constants ++ k ++ position

/-- A block of the key stream: the square after twelve rounds, added to what it was before. -/
def block (k : Vector UInt32 8) (n : UInt64) : Square :=
  let x := start k n
  x.zipWith (· + ·) (doubleRounds 6 x)

/-- The `n`-th random word of a seed, counted from zero. -/
def word (seed : UInt64) (n : Nat) : UInt32 :=
  (block (key seed) (UInt64.ofNat (n / 16)))[n % 16]

end LocalPlay.Random
