/-
  The random source of a machine: a splittable key.

  A key is two 32 bit words.  `block` enciphers a two word counter under the key with twenty rounds
  of additions, rotations and exclusive ors (Threefry).  From a key, `next` gives the key to go on
  with and `draw` the random byte; both are functions of the key alone, so the bytes that a program
  sees depend only on its first key and on how many it has drawn.
-/
import Chip8.Number.Signed

namespace Chip8

/-- The state of the random source. -/
structure RandomKey where
  first : UInt32
  second : UInt32
deriving DecidableEq, Repr

namespace RandomKey

/-- The bits of `x` moved up by `r` places, those that leave at the top entering at the bottom. -/
def rotateLeft (x r : UInt32) : UInt32 := (x <<< r) ||| (x >>> (32 - r))

/-- One round on a pair of words, with rotation distance `r`. -/
def round (p : UInt32 × UInt32) (r : UInt32) : UInt32 × UInt32 :=
  let a := p.1 + p.2
  (a, rotateLeft p.2 r ^^^ a)

/-- The rotation distances of the four rounds between two key injections. -/
def distances (even : Bool) : List UInt32 :=
  if even then [13, 15, 26, 6] else [17, 29, 16, 24]

/-- The counter `(a, b)` enciphered under a key: five groups of four rounds, each followed by an
    injection of two of the three key words. -/
def block (k : RandomKey) (a b : UInt32) : UInt32 × UInt32 :=
  let third := k.first ^^^ k.second ^^^ 0x1BD11BDA
  let group (p : UInt32 × UInt32) (even : Bool) (u v : UInt32) : UInt32 × UInt32 :=
    let q := (distances even).foldl round p
    (q.1 + u, q.2 + v)
  let p := (a + k.first, b + k.second)
  let p := group p true k.second (third + 1)
  let p := group p false third (k.first + 2)
  let p := group p true k.first (k.second + 3)
  let p := group p false k.second (third + 4)
  group p true third (k.first + 5)

/-- The key that a counter enciphers to. -/
def derive (k : RandomKey) (a b : UInt32) : RandomKey :=
  let p := k.block a b
  ⟨p.1, p.2⟩

/-- The key to go on with after a draw. -/
def next (k : RandomKey) : RandomKey := k.derive 0 0

/-- The random byte of a key. -/
def draw (k : RandomKey) : UInt8 :=
  let p := ((k.derive 0 1).derive 0 1).block 0 0
  (p.1 ^^^ p.2).toUInt8

/-- The key of a seed, for the seeds that fit 64 bits with a sign. -/
def ofSeed? (seed : Int) : Option RandomKey :=
  if Signed.fits64 seed then some ⟨0, UInt32.ofInt seed⟩ else none

/-- The key of seed 0. -/
def zero : RandomKey := ⟨0, 0⟩

example : zero.draw = 14 := by decide +kernel
example : zero.next = ⟨1797259609, 2579123966⟩ := by decide +kernel
example : ofSeed? (-1) = some ⟨0, 0xFFFFFFFF⟩ := by decide +kernel

end RandomKey

end Chip8
