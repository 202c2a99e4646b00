import Hexfield.Dice

namespace Hexfield

/-!
Rolls from a 64-bit seed.

The seed is stretched to a 256-bit key, the key drives an eight-round stream generator, and each
word of its output is mapped to a roll by a multiply-and-reject step that favours no face.
-/

/-- A generator of percentile rolls: the key, the counter of the next block, and the words of the
current block that are still unused. -/
structure SeededDice where
  key : Array UInt32
  counter : UInt64
  words : List UInt32

namespace SeededDice

private def rotateLeft (x : UInt32) (n : UInt32) : UInt32 :=
  (x <<< n) ||| (x >>> (32 - n))

private def rotateRight (x : UInt32) (n : UInt32) : UInt32 :=
  (x >>> n) ||| (x <<< ((32 - n) % 32))

/-- The words of a key, from a linear congruential sequence whose output is permuted by a rotation
that its own high bits choose. -/
private def keyWords : Nat → UInt64 → List UInt32
  | 0, _ => []
  | count + 1, state =>
      let state := state * 6364136223846793005 + 11634580027462260723
      let mixed := (((state >>> 18) ^^^ state) >>> 27).toUInt32
      let turn := (state >>> 59).toUInt32
      (if turn = 0 then mixed else rotateRight mixed turn) :: keyWords count state

def ofSeed (seed : UInt64) : SeededDice :=
  { key := (keyWords 8 seed).toArray, counter := 0, words := [] }

/-- The sixteen words that the stream generator stirs. -/
private structure Block where
  x0 : UInt32
  x1 : UInt32
  x2 : UInt32
  x3 : UInt32
  x4 : UInt32
  x5 : UInt32
  x6 : UInt32
  x7 : UInt32
  x8 : UInt32
  x9 : UInt32
  x10 : UInt32
  x11 : UInt32
  x12 : UInt32
  x13 : UInt32
  x14 : UInt32
  x15 : UInt32

/-- Four words stirred with each other. -/
@[inline] private def quarter (a b c d : UInt32) : UInt32 × UInt32 × UInt32 × UInt32 :=
  let a := a + b
  let d := rotateLeft (d ^^^ a) 16
  let c := c + d
  let b := rotateLeft (b ^^^ c) 12
  let a := a + b
  let d := rotateLeft (d ^^^ a) 8
  let c := c + d
  let b := rotateLeft (b ^^^ c) 7
  (a, b, c, d)

/-- One round down the four columns and one along the four diagonals. -/
private def Block.stir (s : Block) : Block :=
  let (x0, x4, x8, x12) := quarter s.x0 s.x4 s.x8 s.x12
  let (x1, x5, x9, x13) := quarter s.x1 s.x5 s.x9 s.x13
  let (x2, x6, x10, x14) := quarter s.x2 s.x6 s.x10 s.x14
  let (x3, x7, x11, x15) := quarter s.x3 s.x7 s.x11 s.x15
  let (x0, x5, x10, x15) := quarter x0 x5 x10 x15
  let (x1, x6, x11, x12) := quarter x1 x6 x11 x12
  let (x2, x7, x8, x13) := quarter x2 x7 x8 x13
  let (x3, x4, x9, x14) := quarter x3 x4 x9 x14
  { x0, x1, x2, x3, x4, x5, x6, x7, x8, x9, x10, x11, x12, x13, x14, x15 }

/-- The output of one block: four double rounds, added to the input. -/
private def Block.output (s : Block) : List UInt32 :=
  let t := s.stir.stir.stir.stir
  [s.x0 + t.x0, s.x1 + t.x1, s.x2 + t.x2, s.x3 + t.x3,
   s.x4 + t.x4, s.x5 + t.x5, s.x6 + t.x6, s.x7 + t.x7,
   s.x8 + t.x8, s.x9 + t.x9, s.x10 + t.x10, s.x11 + t.x11,
   s.x12 + t.x12, s.x13 + t.x13, s.x14 + t.x14, s.x15 + t.x15]

/-- The words of the block with the given counter.  The first four inputs are the fixed constant of
the generator for keys of this length. -/
private def blockWords (key : Array UInt32) (counter : UInt64) : List UInt32 :=
  let word (i : Nat) : UInt32 := key.getD i 0
  Block.output
    { x0 := 0x61707865, x1 := 0x3320646e, x2 := 0x79622d32, x3 := 0x6b206574,
      x4 := word 0, x5 := word 1, x6 := word 2, x7 := word 3,
      x8 := word 4, x9 := word 5, x10 := word 6, x11 := word 7,
      x12 := counter.toUInt32, x13 := (counter >>> 32).toUInt32, x14 := 0, x15 := 0 }

def nextWord (dice : SeededDice) : UInt32 × SeededDice :=
  match dice.words with
  | word :: words => (word, { dice with words })
  | [] =>
      match blockWords dice.key dice.counter with
      | word :: words => (word, { dice with counter := dice.counter + 1, words })
      | [] => (0, { dice with counter := dice.counter + 1 })

/-- The largest low half of a product that is accepted.  Above it some faces would have one more
word than others. -/
private def acceptance : UInt64 := 0xC7FFFFFF

private theorem face_lt (word : UInt32) : ((word.toUInt64 * 100) >>> 32).toNat < 100 := by
  have bound := word.toNat_lt
  have noWrap : word.toNat * 100 < 2 ^ 64 := by omega
  rw [UInt64.toNat_shiftRight, UInt64.toNat_mul]
  simp only [UInt32.toNat_toUInt64, UInt64.reduceToNat, Nat.reduceMod, Nat.shiftRight_eq_div_pow,
    Nat.mod_eq_of_lt noWrap]
  omega

/-- The roll that a word stands for, if it is accepted. -/
def face? (word : UInt32) : Option Roll :=
  let product := word.toUInt64 * 100
  if product &&& 0xFFFFFFFF ≤ acceptance then
    some ⟨(product >>> 32).toNat, face_lt word⟩
  else
    none

/-- The first accepted word among the next `attempts`; the last one counts whatever it is. -/
private def rollWithin : Nat → SeededDice → Roll × SeededDice
  | 0, dice =>
      let (word, dice) := dice.nextWord
      (⟨((word.toUInt64 * 100) >>> 32).toNat, face_lt word⟩, dice)
  | attempts + 1, dice =>
      let (word, dice) := dice.nextWord
      match face? word with
      | some roll => (roll, dice)
      | none => rollWithin attempts dice

/-- One word in five is rejected, so a thousand rejections in a row do not occur. -/
instance : RollSource SeededDice where
  roll := rollWithin 1000

end SeededDice

/-- A source of either kind, for callers that choose it at run time. -/
inductive Dice where
  | seeded (dice : SeededDice)
  | scripted (dice : ScriptedDice)

instance : RollSource Dice where
  roll
    | .seeded dice => let (roll, dice) := RollSource.roll dice; (roll, .seeded dice)
    | .scripted dice => let (roll, dice) := RollSource.roll dice; (roll, .scripted dice)

end Hexfield
