/-
  The call stack: sixteen slots for return addresses and the number of them in use.

  The depth is at most sixteen by type.  `push` refuses a full stack and `pop` an empty one; a
  refused operation yields no stack, so there is nothing that it could have changed.  A slot is
  set to zero when it is popped, hence a stack that was built by `push` and `pop` alone is
  determined by the list of addresses that it holds.
-/
import Chip8.Machine.Fault
import Chip8.Machine.Word

namespace Chip8

/-- Sixteen slots, of which the first `depth` are in use. -/
structure CallStack where
  slots : Vector UInt16 16
  depth : Nat
  depth_le : depth ≤ 16 := by decide
deriving DecidableEq

namespace CallStack

/-- The number of slots. -/
def capacity : Nat := 16

/-- No slot in use, all of them zero. -/
def empty : CallStack := { slots := Vector.replicate 16 0, depth := 0 }

/-- Puts the low twelve bits of an address on top, unless every slot is in use. -/
def push (s : CallStack) (address : Int) : Except FaultKind CallStack :=
  if h : s.depth < 16 then
    .ok { slots := s.slots.set s.depth (UInt16.ofNat (Address.ofInt address).val) h
          depth := s.depth + 1
          depth_le := h }
  else .error .stackOverflow

/-- Takes the top address off and sets its slot to zero, unless no slot is in use. -/
def pop (s : CallStack) : Except FaultKind (UInt16 × CallStack) :=
  if h : 0 < s.depth then
    have top : s.depth - 1 < 16 := by have := s.depth_le; omega
    .ok (s.slots[s.depth - 1],
      { slots := s.slots.set (s.depth - 1) 0 top
        depth := s.depth - 1
        depth_le := by have := s.depth_le; omega })
  else .error .stackUnderflow

/-- The addresses in use, the oldest first. -/
def toList (s : CallStack) : List UInt16 := s.slots.toList.take s.depth

end CallStack

end Chip8
