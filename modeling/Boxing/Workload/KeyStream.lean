/-!
# A stream of random words

`KeyStream.ofSeed` expands a seed of 64 bits to a key with a permuted congruential generator and
starts the ChaCha stream of that key with eight rounds. `KeyStream.next` yields its words of 32
bits: the sixteen words of block `0` in order, then those of block `1`, and so on.
-/

set_option autoImplicit false

namespace Boxing

/-- The bits of `x` moved `k` places up, around the end. -/
def rotateUp (x k : UInt32) : UInt32 := (x <<< k) ||| (x >>> ((32 : UInt32) - k))

/-! ## Seeds -/

namespace Seed

/-- The next state of the generator that expands a seed. -/
def advance (state : UInt64) : UInt64 := state * 6364136223846793005 + 11634580027462260723

/-- The word that a state yields: 32 of its bits mixed, and rotated down by the five highest. -/
def word (state : UInt64) : UInt32 :=
  let mixed := (((state >>> 18) ^^^ state) >>> 27).toUInt32
  let distance := (state >>> 59).toUInt32
  rotateUp mixed (32 - distance)

/-- The words of the next `n` states. -/
def words : Nat → UInt64 → List UInt32
  | 0, _ => []
  | n + 1, state => let state := advance state; word state :: words n state

end Seed

/-! ## Blocks -/

namespace ChaCha

/-- The sixteen words that a block is computed from and that it consists of. -/
abbrev Block := Vector UInt32 16

/-- Adds, mixes and rotates the words at four positions. -/
def quarterRound (v : Block) (i j k l : Fin 16) : Block :=
  let a := v[i] + v[j]
  let d := rotateUp (v[l] ^^^ a) 16
  let c := v[k] + d
  let b := rotateUp (v[j] ^^^ c) 12
  let a := a + b
  let d := rotateUp (d ^^^ a) 8
  let c := c + d
  let b := rotateUp (b ^^^ c) 7
  (((v.set i a).set j b).set k c).set l d

/-- One round down the columns and one along the diagonals. -/
def doubleRound (v : Block) : Block :=
  let v := quarterRound v 0 4 8 12
  let v := quarterRound v 1 5 9 13
  let v := quarterRound v 2 6 10 14
  let v := quarterRound v 3 7 11 15
  let v := quarterRound v 0 5 10 15
  let v := quarterRound v 1 6 11 12
  let v := quarterRound v 2 7 8 13
  quarterRound v 3 4 9 14

/-- The start of a block: four constants, the key, the number of the block and an empty nonce. -/
def initial (key : Vector UInt32 8) (number : UInt64) : Block :=
  #v[0x61707865, 0x3320646e, 0x79622d32, 0x6b206574,
    key[0], key[1], key[2], key[3], key[4], key[5], key[6], key[7],
    number.toUInt32, (number >>> 32).toUInt32, 0, 0]

/-- A block after eight rounds, with its start added. -/
def block (key : Vector UInt32 8) (number : UInt64) : Block :=
  let start := initial key number
  (doubleRound (doubleRound (doubleRound (doubleRound start)))).zipWith (· + ·) start

end ChaCha

/-! ## The stream -/

/-- A position in the stream of a key. -/
structure KeyStream where
  key : Vector UInt32 8
  /-- The number of the block after the current one. -/
  following : UInt64
  block : ChaCha.Block
  /-- How many words of the current block have been drawn. -/
  drawn : Nat

namespace KeyStream

/-- The start of the stream of a seed. -/
def ofSeed (seed : UInt64) : KeyStream :=
  let words := Seed.words 8 seed
  let key := Vector.ofFn fun i => words.getD i 0
  ⟨key, 1, ChaCha.block key 0, 0⟩

/-- The next word of the stream. -/
def next : StateM KeyStream UInt32 := fun s =>
  if h : s.drawn < 16 then (s.block[s.drawn], { s with drawn := s.drawn + 1 })
  else
    let block := ChaCha.block s.key s.following
    (block[0], ⟨s.key, s.following + 1, block, 1⟩)

end KeyStream

end Boxing
