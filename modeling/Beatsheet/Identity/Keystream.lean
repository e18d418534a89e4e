/-
# Beatsheet.Identity.Keystream — a keystream of words

The stream of 32-bit words that ChaCha with twelve rounds makes from a key: blocks of sixteen words,
numbered from zero, one after another. The key of a seed is made by a linear congruential generator
with permuted output, one word for each step.

Symbols of an alphabet are drawn from pairs of words by widening multiplication: the high half of
`v · size` is the symbol, and a `v` whose low half falls outside the last whole multiple of `size`
is passed over, so that all symbols are equally likely.
-/
import Beatsheet.Text.Basic

set_option autoImplicit false

namespace Beatsheet

namespace Keystream

def rotateLeft (x r : UInt32) : UInt32 :=
  (x <<< r) ||| (x >>> (32 - r))

def rotateRight (x r : UInt32) : UInt32 :=
  (x >>> r) ||| (x <<< (32 - r))

/-- Key words from a seed. -/
def keyWords : (count : Nat) → (seed : UInt64) → List UInt32
  | 0, _ => []
  | n + 1, seed =>
    let state := seed * 6364136223846793005 + 11634580027462260723
    let word := (((state >>> 18) ^^^ state) >>> 27).toUInt32
    rotateRight word (state >>> 59).toUInt32 :: keyWords n state

/-- The sixteen words that a block is made of. -/
abbrev Grid := Vector UInt32 16

def quarterRound (a b c d : Fin 16) (g : Grid) : Grid :=
  let g := g.set a (g[a] + g[b])
  let g := g.set d (rotateLeft (g[d] ^^^ g[a]) 16)
  let g := g.set c (g[c] + g[d])
  let g := g.set b (rotateLeft (g[b] ^^^ g[c]) 12)
  let g := g.set a (g[a] + g[b])
  let g := g.set d (rotateLeft (g[d] ^^^ g[a]) 8)
  let g := g.set c (g[c] + g[d])
  g.set b (rotateLeft (g[b] ^^^ g[c]) 7)

/-- Four quarter rounds down the columns and four along the diagonals. -/
def doubleRound (g : Grid) : Grid :=
  let g := quarterRound 0 4 8 12 g
  let g := quarterRound 1 5 9 13 g
  let g := quarterRound 2 6 10 14 g
  let g := quarterRound 3 7 11 15 g
  let g := quarterRound 0 5 10 15 g
  let g := quarterRound 1 6 11 12 g
  let g := quarterRound 2 7 8 13 g
  quarterRound 3 4 9 14 g

/-- The words of a block before its rounds: the constants, the key, the number of the block and two
zeros. -/
def initialGrid (key : List UInt32) (number : UInt64) : Grid :=
  Vector.ofFn fun i =>
    (([0x61707865, 0x3320646e, 0x79622d32, 0x6b206574] : List UInt32) ++ key ++
      [number.toUInt32, (number >>> 32).toUInt32, 0, 0]).getD i 0

def block (key : List UInt32) (number : UInt64) : List UInt32 :=
  let start := initialGrid key number
  (Vector.zipWith (· + ·) (Nat.repeat doubleRound 6 start) start).toList

end Keystream

open Keystream

/-- A position in a keystream: what is left of the current block, and the number of the next. -/
structure Keystream where
  key : List UInt32
  number : UInt64 := 0
  unread : List UInt32 := []
  deriving DecidableEq, Repr

namespace Keystream

def ofSeed (seed : UInt64) : Keystream :=
  { key := keyWords 8 seed }

def word (s : Keystream) : UInt32 × Keystream :=
  match s.unread with
  | w :: rest => (w, { s with unread := rest })
  | [] =>
    let fresh := block s.key s.number
    (fresh.headD 0, { s with number := s.number + 1, unread := fresh.tail })

/-- Two words as one number, the first word low. -/
def pair (s : Keystream) : Nat × Keystream :=
  let (low, s) := s.word
  let (high, s) := s.word
  (low.toNat + high.toNat * 0x100000000, s)

/-- One more than the largest number of 64 bits. -/
def wordSpan : Nat := 0x10000000000000000

/-- The low halves that lie inside the last whole multiple of 62 begin below this. -/
def zone : Nat := 0xF800000000000000

/-- The number of draws after which a symbol is taken even from outside the last whole multiple. One
draw in thirty-two falls there, so no run comes near it. -/
def patience : Nat := 1000

/-- Draws a number below 62. -/
def symbolIndex : (patience : Nat) → Keystream → Nat × Keystream
  | 0, s => (s.pair.1 * 62 / wordSpan, s.pair.2)
  | n + 1, s =>
    let (v, s) := s.pair
    if v * 62 % wordSpan < zone then (v * 62 / wordSpan, s) else symbolIndex n s

def alphabet : Text :=
  "ABCDEFGHIJKLMNOPQRSTUVWXYZabcdefghijklmnopqrstuvwxyz0123456789".toList

/-- Draws a text of the given length over the alphabet. -/
def symbols : (length : Nat) → Keystream → Text × Keystream
  | 0, s => ([], s)
  | n + 1, s =>
    let (index, s) := symbolIndex patience s
    let (rest, s) := symbols n s
    (alphabet.getD index 'A' :: rest, s)

end Keystream

end Beatsheet
