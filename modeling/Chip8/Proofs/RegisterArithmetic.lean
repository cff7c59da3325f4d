/-
  What arithmetic does to a register file.

  Every operation has a LAW (`AluOp.Law`): an equation in whole numbers between the two bytes that it is
  given, the byte that it yields and its flag.  Taken together result and flag lose nothing: the flag is the
  bit that the byte has no room for, and it is set when a subtraction did NOT have to borrow.  A byte and a
  bit are all that such an equation leaves open, so the law of an operation settles both of them.

  The two registers and the flag register may be the same one in any combination.  What holds then is a
  matter of ORDER: both bytes are read before anything is written, and the flag is written after the
  result.  `register_combine` says so for every register at once, and nothing else about the order is used.
-/
import Chip8.Proofs.Footprint

namespace Chip8

namespace AluOp

/-! ## The laws -/

/-- What an operation says of two bytes `a` and `b`, its result `r` and its flag `f`.  An operation without
    a flag says nothing of `f`. -/
def Law (op : AluOp) (a b r f : Nat) : Prop :=
  match op with
  | .copy => r = b
  | .or => r = a ||| b
  | .and => r = a &&& b
  | .xor => r = a ^^^ b
  | .add => r + 256 * f = a + b
  | .subtract => r + b = a + 256 * (1 - f)
  | .shiftRight => 2 * r + f = a
  | .subtractFrom => r + a = b + 256 * (1 - f)
  | .shiftLeft => r + 256 * f = 2 * a

/-- The flag of an operation. -/
def flag (op : AluOp) (a b : UInt8) : Bool := (op.apply a b).2.getD false

theorem law_apply (op : AluOp) (a b : UInt8) :
    op.Law a.toNat b.toNat (op.apply a b).1.toNat (op.flag a b).toNat := by
  cases op with
  | copy => rfl
  | or => exact UInt8.toNat_or a b
  | and => exact UInt8.toNat_and a b
  | xor => exact UInt8.toNat_xor a b
  | add => exact toNat_add_carry a b
  | subtract => exact toNat_sub_borrow a b
  | shiftRight => exact toNat_shiftRight_out a
  | subtractFrom => exact toNat_sub_borrow b a
  | shiftLeft => exact toNat_shiftLeft_out a

/-- The operations that set the flag are those that have one. -/
theorem snd_apply (op : AluOp) (a b : UInt8) :
    (op.apply a b).2 = if op.setsFlag then some (op.flag a b) else none := by
  cases op <;> rfl

end AluOp

/-! ## The register file -/

theorem toNat_flagByte (flag : Bool) : (flagByte flag).toNat = flag.toNat := by
  cases flag <;> rfl

namespace State

variable {s : State} {d : Devices} {w : Word}

/-- All registers after an operation: the flag wins, then the result. -/
theorem register_combine (s : State) (op : AluOp) (x y k : Register) :
    (s.combine op x y).register k =
      if op.setsFlag ∧ k = flagRegister then flagByte (op.flag (s.register x) (s.register y))
      else if k = x then (op.apply (s.register x) (s.register y)).1
      else s.register k := by
  unfold combine
  dsimp only
  rw [AluOp.snd_apply]
  cases flagged : op.setsFlag with
  | false =>
    simp only [Bool.false_eq_true, if_false, false_and, register_setRegister, eq_comm]
  | true =>
    simp only [if_true, true_and, setFlag, register_setRegister, eq_comm]

/-- **Arithmetic on aliased registers.**  A word `8XYN` with the last nibble of an operation, or `7XNN`, is
    always carried out and changes registers only, whatever they hold and whichever of `X`, `Y` and `F`
    are the same.  For `8XYN` there are a result and a flag that obey the law of the operation; the flag
    register ends with the flag if the operation sets it, otherwise `X` ends with the result, and every
    other register is as it was.  `7XNN` adds to `X` modulo 256 and has no flag. -/
theorem execute_arithmetic (s : State) (d : Devices) (w : Word) :
    let a := (s.register w.x).toNat
    let b := (s.register w.y).toNat
    (∀ op : AluOp, w.toNat / 0x1000 = 8 → w.toNat % 0x10 = op.nibble →
      ∃ (t : State) (r f : Nat),
        s.execute d w = (.ok t, d) ∧ t = { s with registers := t.registers } ∧
        op.Law a b r f ∧ r ≤ 255 ∧ f ≤ 1 ∧
        ∀ k, (t.register k).toNat =
          if op.setsFlag ∧ k = flagRegister then f
          else if k = w.x then r
          else (s.register k).toNat) ∧
    (w.toNat / 0x1000 = 7 →
      ∃ t : State,
        s.execute d w = (.ok t, d) ∧ t = { s with registers := t.registers } ∧
        ∀ k, (t.register k).toNat =
          if k = w.x then (a + w.toNat % 0x100) % 256 else (s.register k).toNat) := by
  intro a b
  constructor
  · intro op family last
    have known := Instruction.decode?_of_combine family last
    refine ⟨s.combine op w.x w.y, (op.apply (s.register w.x) (s.register w.y)).1.toNat,
      (op.flag (s.register w.x) (s.register w.y)).toNat, execute_of_perform known rfl,
      combine_eq s op w.x w.y, op.law_apply _ _, ?_, Bool.toNat_le _, ?_⟩
    · exact Nat.le_of_lt_succ (UInt8.toNat_lt _)
    · intro k
      rw [register_combine, ← toNat_flagByte, apply_ite UInt8.toNat, apply_ite UInt8.toNat]
  · intro family
    have known := Instruction.decode?_of_addByte family
    refine ⟨s.setRegister w.x (s.register w.x + w.nn), execute_of_perform known rfl, rfl, ?_⟩
    intro k
    have sum : (s.register w.x + w.nn).toNat = (a + w.toNat % 0x100) % 256 := by
      rw [UInt8.toNat_add, Word.toNat_nn]
    rw [register_setRegister, apply_ite UInt8.toNat, sum]
    simp only [eq_comm]

/-- Everything in the flag register: 200 added to itself leaves the carry there and not the sum, and 255
    added without a flag leaves 199. -/
theorem execute_arithmetic_on_the_flag_register :
    let s : State := { fresh RandomKey.zero with registers := Vector.replicate 16 200 }
    ∃ t u : State,
      s.execute Devices.idle 0x8FF4 = (.ok t, Devices.idle) ∧ (t.register flagRegister).toNat = 1 ∧
      (t.register 0).toNat = 200 ∧
      s.execute Devices.idle 0x7FFF = (.ok u, Devices.idle) ∧
      (u.register flagRegister).toNat = 199 := by
  intro s
  obtain ⟨t, r, f, run, -, law, small, -, registers⟩ :=
    (execute_arithmetic s Devices.idle 0x8FF4).1 .add (by decide) (by decide)
  obtain ⟨u, run', -, registers'⟩ := (execute_arithmetic s Devices.idle 0x7FFF).2 (by decide)
  have held : ∀ k, (s.register k).toNat = 200 := by decide
  have sum : r + 256 * f = 400 := law
  refine ⟨t, u, run, ?_, ?_, run', ?_⟩
  · rw [registers flagRegister, if_pos (by decide)]
    omega
  · rw [registers 0, if_neg (by decide), if_neg (by decide), held]
  · rw [registers' flagRegister, if_pos (by decide), held]
    decide

end State

end Chip8
