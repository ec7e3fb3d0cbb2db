/-!
# A block generator of random words

The stream of a ChaCha block function with twelve rounds under a key of eight words: a block counter
of 64 bits from zero, and a nonce of zero.

Main definitions:

- `Block`: sixteen words.
- `Block.mix`: the rounds.
- `Block.output`: the block of a key and a counter.
-/

namespace DevnetChaos
namespace Random

/-- Rotates a word to the left. -/
def rotateLeft (x : UInt32) (n : UInt32) : UInt32 := (x <<< n) ||| (x >>> (32 - n))

/-- Four words. -/
structure Quad where
  a : UInt32
  b : UInt32
  c : UInt32
  d : UInt32
  deriving DecidableEq, Repr

/-- One quarter round. -/
def Quad.mix (q : Quad) : Quad :=
  let a := q.a + q.b
  let d := rotateLeft (q.d ^^^ a) 16
  let c := q.c + d
  let b := rotateLeft (q.b ^^^ c) 12
  let a := a + b
  let d := rotateLeft (d ^^^ a) 8
  let c := c + d
  let b := rotateLeft (b ^^^ c) 7
  ⟨a, b, c, d⟩

/-- Sixteen words, as the columns of a square. -/
structure Block where
  first : Quad
  second : Quad
  third : Quad
  fourth : Quad
  deriving DecidableEq, Repr

namespace Block

/-- Regroups columns as diagonals. -/
def diagonals (s : Block) : Block :=
  ⟨⟨s.first.a, s.second.b, s.third.c, s.fourth.d⟩, ⟨s.second.a, s.third.b, s.fourth.c, s.first.d⟩,
    ⟨s.third.a, s.fourth.b, s.first.c, s.second.d⟩, ⟨s.fourth.a, s.first.b, s.second.c, s.third.d⟩⟩

/-- Regroups diagonals as columns. -/
def columns (s : Block) : Block :=
  ⟨⟨s.first.a, s.fourth.b, s.third.c, s.second.d⟩, ⟨s.second.a, s.first.b, s.fourth.c, s.third.d⟩,
    ⟨s.third.a, s.second.b, s.first.c, s.fourth.d⟩, ⟨s.fourth.a, s.third.b, s.second.c, s.first.d⟩⟩

/-- Mixes each of the four groups. -/
def mixGroups (s : Block) : Block :=
  ⟨s.first.mix, s.second.mix, s.third.mix, s.fourth.mix⟩

/-- Two rounds: one on the columns and one on the diagonals. -/
def doubleRound (s : Block) : Block := s.mixGroups.diagonals.mixGroups.columns

/-- A number of double rounds. -/
def mix : Nat → Block → Block
  | 0, s => s
  | n + 1, s => mix n s.doubleRound

/-- Adds the words of two groups. -/
def addQuad (x y : Quad) : Quad := ⟨x.a + y.a, x.b + y.b, x.c + y.c, x.d + y.d⟩

/-- Adds the words of two blocks. -/
def add (s t : Block) : Block :=
  ⟨addQuad s.first t.first, addQuad s.second t.second, addQuad s.third t.third,
    addQuad s.fourth t.fourth⟩

/-- The words of a block, row by row. -/
def words (s : Block) : List UInt32 :=
  [s.first.a, s.second.a, s.third.a, s.fourth.a, s.first.b, s.second.b, s.third.b, s.fourth.b,
   s.first.c, s.second.c, s.third.c, s.fourth.c, s.first.d, s.second.d, s.third.d, s.fourth.d]

end Block

/-- A key of eight words. -/
structure Key where
  low : Quad
  high : Quad
  deriving DecidableEq, Repr

/-- The block before mixing: constants, key, counter and nonce in rows. -/
def Key.start (key : Key) (counter : UInt64) : Block :=
  ⟨⟨0x61707865, key.low.a, key.high.a, counter.toUInt32⟩,
    ⟨0x3320646e, key.low.b, key.high.b, (counter >>> 32).toUInt32⟩,
    ⟨0x79622d32, key.low.c, key.high.c, 0⟩, ⟨0x6b206574, key.low.d, key.high.d, 0⟩⟩

/-- The sixteen words of a block of the stream. -/
def Key.output (key : Key) (counter : UInt64) : List UInt32 :=
  let start := key.start counter
  ((start.mix 6).add start).words

end Random
end DevnetChaos
