/-!
# The ChaCha8 keystream

`Key.ofSeed` stretches a 64-bit seed into the eight words of a key, and `keystream` gives the block
of sixteen words with a given number. The nonce is zero and the block number has 64 bits, so the
whole stream is a function of the seed alone: `word` reads off its `i`-th word.
-/

namespace TestMatrix.Random

/-- The sixteen words of a cipher block, row by row. -/
structure Block where
  (w0 w1 w2 w3 : UInt32)
  (w4 w5 w6 w7 : UInt32)
  (w8 w9 w10 w11 : UInt32)
  (w12 w13 w14 w15 : UInt32)
deriving DecidableEq, Repr, Inhabited

/-- The eight words of a 256-bit key. -/
structure Key where
  (k0 k1 k2 k3 k4 k5 k6 k7 : UInt32)
deriving DecidableEq, Repr, Inhabited

/-- `x` rotated left by `n` bits, for `0 < n < 32`. -/
@[inline] def rotateLeft (x n : UInt32) : UInt32 :=
  (x <<< n) ||| (x >>> (32 - n))

/-- `x` rotated right by `n` bits, for `n < 32`. -/
@[inline] def rotateRight (x n : UInt32) : UInt32 :=
  (x >>> n) ||| (x <<< ((32 - n) % 32))

/-! ## Keys -/

/-- The next state of the congruential generator that stretches a seed. -/
def stretchState (state : UInt64) : UInt64 :=
  state * 6364136223846793005 + 11634580027462260723

/-- The word that the stretching generator puts out in `state`: shifted, folded and rotated. -/
def stretchWord (state : UInt64) : UInt32 :=
  rotateRight ((((state >>> 18) ^^^ state) >>> 27).toUInt32) ((state >>> 59).toUInt32)

/-- The key of a seed: eight successive words of the stretching generator. -/
def Key.ofSeed (seed : UInt64) : Key :=
  let s0 := stretchState seed
  let s1 := stretchState s0
  let s2 := stretchState s1
  let s3 := stretchState s2
  let s4 := stretchState s3
  let s5 := stretchState s4
  let s6 := stretchState s5
  let s7 := stretchState s6
  { k0 := stretchWord s0, k1 := stretchWord s1, k2 := stretchWord s2, k3 := stretchWord s3
    k4 := stretchWord s4, k5 := stretchWord s5, k6 := stretchWord s6, k7 := stretchWord s7 }

/-! ## Rounds -/

/-- The quarter round, which mixes four words. -/
@[inline] def quarterRound (a b c d : UInt32) : UInt32 × UInt32 × UInt32 × UInt32 :=
  let a := a + b
  let d := rotateLeft (d ^^^ a) 16
  let c := c + d
  let b := rotateLeft (b ^^^ c) 12
  let a := a + b
  let d := rotateLeft (d ^^^ a) 8
  let c := c + d
  let b := rotateLeft (b ^^^ c) 7
  (a, b, c, d)

/-- Two rounds: the four columns of the block, then its four diagonals. -/
def Block.doubleRound (s : Block) : Block :=
  let (w0, w4, w8, w12) := quarterRound s.w0 s.w4 s.w8 s.w12
  let (w1, w5, w9, w13) := quarterRound s.w1 s.w5 s.w9 s.w13
  let (w2, w6, w10, w14) := quarterRound s.w2 s.w6 s.w10 s.w14
  let (w3, w7, w11, w15) := quarterRound s.w3 s.w7 s.w11 s.w15
  let (w0, w5, w10, w15) := quarterRound w0 w5 w10 w15
  let (w1, w6, w11, w12) := quarterRound w1 w6 w11 w12
  let (w2, w7, w8, w13) := quarterRound w2 w7 w8 w13
  let (w3, w4, w9, w14) := quarterRound w3 w4 w9 w14
  { w0, w1, w2, w3, w4, w5, w6, w7, w8, w9, w10, w11, w12, w13, w14, w15 }

/-- The wordwise sum of two blocks. -/
def Block.add (s t : Block) : Block :=
  { w0 := s.w0 + t.w0, w1 := s.w1 + t.w1, w2 := s.w2 + t.w2, w3 := s.w3 + t.w3
    w4 := s.w4 + t.w4, w5 := s.w5 + t.w5, w6 := s.w6 + t.w6, w7 := s.w7 + t.w7
    w8 := s.w8 + t.w8, w9 := s.w9 + t.w9, w10 := s.w10 + t.w10, w11 := s.w11 + t.w11
    w12 := s.w12 + t.w12, w13 := s.w13 + t.w13, w14 := s.w14 + t.w14, w15 := s.w15 + t.w15 }

/-- The block that the rounds start from: four constants, the key, the block number, no nonce. -/
def Key.start (key : Key) (number : UInt64) : Block :=
  { w0 := 0x61707865, w1 := 0x3320646e, w2 := 0x79622d32, w3 := 0x6b206574
    w4 := key.k0, w5 := key.k1, w6 := key.k2, w7 := key.k3
    w8 := key.k4, w9 := key.k5, w10 := key.k6, w11 := key.k7
    w12 := number.toUInt32, w13 := (number >>> 32).toUInt32, w14 := 0, w15 := 0 }

/-- Block `number` of the keystream: eight rounds, and the starting block added at the end. -/
def keystream (key : Key) (number : UInt64) : Block :=
  let start := key.start number
  start.doubleRound.doubleRound.doubleRound.doubleRound.add start

/-! ## Words -/

/-- Pair `i % 8` of the words of a block, as one 64-bit word with the first of the two low. -/
def Block.pair (s : Block) (i : Nat) : UInt64 :=
  let join (low high : UInt32) : UInt64 := low.toUInt64 ||| (high.toUInt64 <<< 32)
  match i % 8 with
  | 0 => join s.w0 s.w1
  | 1 => join s.w2 s.w3
  | 2 => join s.w4 s.w5
  | 3 => join s.w6 s.w7
  | 4 => join s.w8 s.w9
  | 5 => join s.w10 s.w11
  | 6 => join s.w12 s.w13
  | _ => join s.w14 s.w15

/-- The `i`-th 64-bit word of the keystream of `seed`; a block holds eight of them. -/
def word (seed : UInt64) (i : Nat) : UInt64 :=
  (keystream (Key.ofSeed seed) (UInt64.ofNat (i / 8))).pair i

end TestMatrix.Random
