/-!
A seeded stream of random words: the ChaCha block function with eight rounds in counter mode.
-/

namespace Diffusion.Random

/-- Sixteen words: constants, key, block counter and two zeros. -/
abbrev Block := Vector UInt32 16

def rotateLeft (x : UInt32) (n : UInt32) : UInt32 := x <<< n ||| x >>> (32 - n)

def rotateRight (x : UInt32) (n : UInt32) : UInt32 := x >>> (n % 32) ||| x <<< ((32 - n) % 32)

/-- Mixes four of the words. -/
def quarterRound (a b c d : Fin 16) (s : Block) : Block :=
  let s := s.set a (s[a] + s[b])
  let s := s.set d (rotateLeft (s[d] ^^^ s[a]) 16)
  let s := s.set c (s[c] + s[d])
  let s := s.set b (rotateLeft (s[b] ^^^ s[c]) 12)
  let s := s.set a (s[a] + s[b])
  let s := s.set d (rotateLeft (s[d] ^^^ s[a]) 8)
  let s := s.set c (s[c] + s[d])
  s.set b (rotateLeft (s[b] ^^^ s[c]) 7)

/-- A round over the columns and a round over the diagonals. -/
def doubleRound (s : Block) : Block :=
  s |> quarterRound 0 4 8 12 |> quarterRound 1 5 9 13 |> quarterRound 2 6 10 14
    |> quarterRound 3 7 11 15 |> quarterRound 0 5 10 15 |> quarterRound 1 6 11 12
    |> quarterRound 2 7 8 13 |> quarterRound 3 4 9 14

/-- The block of a key at a counter: four double rounds over the initial words, then the initial
words added again. -/
def block (key : Vector UInt32 8) (counter : UInt64) : Block :=
  let constants : Vector UInt32 4 := #v[0x61707865, 0x3320646e, 0x79622d32, 0x6b206574]
  let place : Vector UInt32 4 := #v[counter.toUInt32, (counter >>> 32).toUInt32, 0, 0]
  let initial : Block := constants ++ key ++ place
  let mixed := initial |> doubleRound |> doubleRound |> doubleRound |> doubleRound
  mixed.zipWith (· + ·) initial

/-- A generator: its key, the next block's counter and the words left of the present block. -/
structure Generator where
  key : Vector UInt32 8
  counter : UInt64
  pending : List UInt32

namespace Generator

/-- One step of the congruential sequence that spreads a seed over the key. -/
def nextState (state : UInt64) : UInt64 := state * 6364136223846793005 + 11634580027462260723

/-- The key word of a state of that sequence. -/
def keyWord (state : UInt64) : UInt32 :=
  rotateRight (((state >>> 18) ^^^ state) >>> 27).toUInt32 (state >>> 59).toUInt32

/-- The states after the seed, one for each key word. -/
def keyStates (seed : UInt64) : Nat → UInt64
  | 0 => nextState seed
  | i + 1 => nextState (keyStates seed i)

/-- The generator of a seed, at its first block. -/
def ofSeed (seed : UInt64) : Generator where
  key := Vector.ofFn fun i => keyWord (keyStates seed i)
  counter := 0
  pending := []

def word (g : Generator) : UInt32 × Generator :=
  match g.pending with
  | w :: rest => (w, { g with pending := rest })
  | [] =>
    let words := block g.key g.counter
    (words[0], { g with counter := g.counter + 1, pending := words.toList.drop 1 })

/-- Takes two words, the low one first. -/
def doubleWord (g : Generator) : UInt64 × Generator :=
  let (low, g) := g.word
  let (high, g) := g.word
  (high.toUInt64 <<< 32 ||| low.toUInt64, g)

/-- Takes as many values as wanted, one after the other. -/
def draws {α : Type} (draw : Generator → α × Generator) (count : Nat) (g : Generator) :
    Vector α count × Generator :=
  (Vector.ofFnM (m := StateM Generator) fun (_ : Fin count) => (draw : StateM Generator α)).run g

/-- A uniform element of `[0, 1)` from the upper 24 bits of a word. -/
def uniform (g : Generator) : Float32 × Generator :=
  let (w, g) := g.word
  (Float32.ofNat (w >>> 8).toNat * 5.9604644775390625e-8, g)

end Generator

end Diffusion.Random
