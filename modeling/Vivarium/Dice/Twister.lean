import Vivarium.Dice

/-!
# The Mersenne twister

The generator MT19937 of 32-bit words, started from an integer of any size,
and the rolls made from its words: as many bits as the number of sides has,
drawn again until they name a side.
-/

namespace Vivarium

/-- The generator: its 624 words and the number of them that are used up. -/
structure Twister where
  words : Array UInt32
  used : Nat

namespace Twister

def size : Nat := 624

/-- The distance of the words that are combined. -/
def shiftSize : Nat := 397

/-- The word at an index, which the callers keep below the size. -/
def word (words : Array UInt32) (index : Nat) : UInt32 :=
  words.getD index 0

def folded (value : UInt32) : UInt32 :=
  value ^^^ (value >>> 30)

/-- The state that a plain 32-bit seed leads to. -/
def plainWords (seed : UInt32) : Array UInt32 :=
  (List.range (size - 1)).foldl
    (fun words index =>
      let previous := folded (word words index)
      words.push (1812433253 * previous + (index + 1).toUInt32))
    #[seed]

/-- The 32-bit digits of a number, the lowest first; zero has one. -/
def keyOf (seed : Nat) : Array UInt32 :=
  let count := if seed = 0 then 1 else (seed.log2 / 32) + 1
  (Array.range count).map fun index => (seed >>> (32 * index)).toUInt32

/-- Where the two passes of the seeding stand in the state and in the key. -/
structure SeedState where
  words : Array UInt32
  index : Nat
  keyIndex : Nat

/-- Moves on to the next word; the last word is carried over to the front
when the end is reached. -/
def advanceIndex (state : SeedState) : SeedState :=
  let index := state.index + 1
  if size ≤ index then
    let last := word state.words (size - 1)
    { state with words := state.words.setIfInBounds 0 last, index := 1 }
  else
    { state with index }

/-- Mixes one word of the key into the state. -/
def mixKey (key : Array UInt32) (state : SeedState) : SeedState :=
  let ⟨words, index, keyIndex⟩ := state
  let previous := folded (word words (index - 1))
  let mixed :=
    (word words index ^^^ (previous * 1664525)) +
      key.getD keyIndex 0 + keyIndex.toUInt32
  let nextKey := if key.size ≤ keyIndex + 1 then 0 else keyIndex + 1
  advanceIndex ⟨words.setIfInBounds index mixed, index, nextKey⟩

def stir (state : SeedState) : SeedState :=
  let ⟨words, index, keyIndex⟩ := state
  let previous := folded (word words (index - 1))
  let stirred :=
    (word words index ^^^ (previous * 1566083941)) - index.toUInt32
  advanceIndex ⟨words.setIfInBounds index stirred, index, keyIndex⟩

/-- The generator started from the magnitude of an integer. -/
def ofSeed (seed : Int) : Twister :=
  let key := keyOf seed.natAbs
  let start : SeedState := ⟨plainWords 19650218, 1, 0⟩
  let mixed := Nat.repeat (mixKey key) (max size key.size) start
  let stirred := Nat.repeat stir (size - 1) mixed
  ⟨stirred.words.setIfInBounds 0 0x80000000, size⟩

/-- Replaces one word of the state by its successor. -/
def twistWord (words : Array UInt32) (index : Nat) : Array UInt32 :=
  let high := word words index &&& 0x80000000
  let low := word words ((index + 1) % size) &&& 0x7FFFFFFF
  let joined := high ||| low
  let mask : UInt32 := if joined &&& 1 == 0 then 0 else 0x9908B0DF
  let far := word words ((index + shiftSize) % size)
  words.setIfInBounds index (far ^^^ (joined >>> 1) ^^^ mask)

def twist (words : Array UInt32) : Array UInt32 :=
  (List.range size).foldl twistWord words

/-- Scrambles a word of the state into a word of the output. -/
def temper (value : UInt32) : UInt32 :=
  let value := value ^^^ (value >>> 11)
  let value := value ^^^ ((value <<< 7) &&& 0x9D2C5680)
  let value := value ^^^ ((value <<< 15) &&& 0xEFC60000)
  value ^^^ (value >>> 18)

def next (twister : Twister) : UInt32 × Twister :=
  if twister.used < size then
    (temper (word twister.words twister.used),
      { twister with used := twister.used + 1 })
  else
    let words := twist twister.words
    (temper (word words 0), ⟨words, 1⟩)

/-- A number of so many random bits, made of words from the lowest up; the
highest word gives its upper bits. -/
def bits (twister : Twister) (count : Nat) : Nat × Twister :=
  if count ≤ 32 then
    let (value, twister) := twister.next
    (value.toNat >>> (32 - count), twister)
  else
    let (low, twister) := twister.next
    let (high, twister) := bits twister (count - 32)
    (low.toNat + (high <<< 32), twister)
termination_by count

/-- Draws numbers of so many bits until one is below the bound. -/
def below (twister : Twister) (count bound : Nat) (positive : 0 < bound) :
    (patience : Nat) → Fin bound × Twister
  | 0 => (⟨0, positive⟩, twister)
  | patience + 1 =>
    let (value, twister) := twister.bits count
    if small : value < bound then (⟨value, small⟩, twister)
    else below twister count bound positive patience

instance : Dice Twister where
  roll twister sides positive :=
    twister.below (sides.log2 + 1) sides positive Dice.patience

end Twister

end Vivarium
