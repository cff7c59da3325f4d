/-
  The decimal digits of a register, stored and loaded back.

  A byte has three decimal digits, and it is the only number with these three (`decimalDigits_value`).  They
  go to three addresses one after the other, which are different bytes even where they pass the end of
  memory, and loading takes three bytes from the same addresses.  So what is loaded is what was stored
  (`register_digits`), for a reason that has nothing to do with digits: a byte is read back from where it was
  written (`Memory.read_writeBlock_add`).

  The register is read before anything is written, and registers are no part of memory.  It may be one of
  the three that the digits are loaded into.
-/
import Chip8.Proofs.SavedRegisters

namespace Chip8.State

variable {s : State} {d : Devices} {w : Word} {x : Register}

/-! ## Storing the digits -/

/-- The three digits of a byte, and the byte that they stand for. -/
theorem decimalDigits_value (b : UInt8) :
    ∃ hundreds tens units : UInt8, decimalDigits b = [hundreds, tens, units] ∧
      hundreds.toNat ≤ 9 ∧ tens.toNat ≤ 9 ∧ units.toNat ≤ 9 ∧
      100 * hundreds.toNat + 10 * tens.toNat + units.toNat = b.toNat := by
  have bound := b.toNat_lt
  have hundreds : (b / 100).toNat = b.toNat / 100 := UInt8.toNat_div b 100
  have tens : (b / 10 % 10).toNat = b.toNat / 10 % 10 := by
    rw [UInt8.toNat_mod, UInt8.toNat_div]
    rfl
  have units : (b % 10).toNat = b.toNat % 10 := UInt8.toNat_mod b 10
  refine ⟨_, _, _, rfl, ?_, ?_, ?_, ?_⟩
  · omega
  · omega
  · omega
  · omega

/-- The state with the digits of a register stored. -/
def digitsStored (s : State) (x : Register) : State :=
  { s with memory := s.memory.writeBlock s.index (decimalDigits (s.register x)) }

theorem execute_of_storeDigits (word : w.toNat = 0xF033 + 0x100 * x.val)
    (range : Signed.fits32 s.index) : s.execute d w = (.ok (s.digitsStored x), d) :=
  execute_of_perform (Instruction.decode?_of_misc_number 0x33 word) range

theorem read_digitsStored {k : Nat} {b : UInt8} (digit : (decimalDigits (s.register x))[k]? = some b) :
    (s.digitsStored x).memory.read (s.index + k) = b := by
  have short : (decimalDigits (s.register x)).length ≤ 4096 := by
    show 3 ≤ 4096
    decide
  exact Memory.read_writeBlock_add _ s.memory s.index short digit

/-- Storing digits leaves the bytes beside them alone. -/
theorem read_digitsStored_elsewhere {a : Int}
    (outside : ∀ k : Nat, k < 3 → (s.index + k) % 4096 ≠ a % 4096) :
    (s.digitsStored x).memory.read a = s.memory.read a :=
  Memory.read_writeBlock _ s.memory s.index outside

/-! ## Loading them -/

/-- The registers that are loaded hold the digits in order, the other ones what they held before. -/
theorem register_digits (s : State) (x k : Register) :
    ((s.digitsStored x).loadRegisters 2).register k =
      if k ≤ 2 then (decimalDigits (s.register x)).getD k.val 0 else s.register k := by
  rw [register_loadRegisters]
  split
  · rename_i upTo
    have below : k.val < (decimalDigits (s.register x)).length := Nat.lt_succ_of_le (Fin.le_def.mp upTo)
    rw [List.getD_eq_getElem?_getD, List.getElem?_eq_getElem below, Option.getD_some]
    exact read_digitsStored (List.getElem?_eq_getElem below)
  · rfl

/-- **Digits are read back.**  Wherever the index points within 32 bits, storing the digits of a register
    and loading three registers are both carried out.  Then the first three registers hold three decimal
    digits, which stand for what the register held, also if it is one of the three.  The other registers
    and the index are as before, and so is every byte but those at the index and the two after it, round
    the end of memory. -/
theorem digits_read_back (s : State) (d d' : Devices) (x : Register) {store load : Word}
    (stores : store.toNat = 0xF033 + 0x100 * x.val) (loads : load.toNat = 0xF265)
    (range : Signed.fits32 s.index) :
    ∃ t v, s.execute d store = (.ok t, d) ∧ t.execute d' load = (.ok v, d') ∧
      t = { s with memory := t.memory } ∧ v = { t with registers := v.registers } ∧
      (v.register 0).toNat ≤ 9 ∧ (v.register 1).toNat ≤ 9 ∧ (v.register 2).toNat ≤ 9 ∧
      100 * (v.register 0).toNat + 10 * (v.register 1).toNat + (v.register 2).toNat =
        (s.register x).toNat ∧
      (∀ k : Register, 2 < k → v.register k = s.register k) ∧
      ∀ a : Int, (∀ k : Nat, k < 3 → (s.index + k) % 4096 ≠ a % 4096) →
        v.memory.read a = s.memory.read a := by
  have loaded : (s.digitsStored x).execute d' load =
      (.ok ((s.digitsStored x).loadRegisters 2), d') := execute_of_load loads range
  have registers := register_digits s x
  obtain ⟨hundreds, tens, units, digits, h, t, u, value⟩ := decimalDigits_value (s.register x)
  rw [digits] at registers
  have first : ((s.digitsStored x).loadRegisters 2).register 0 = hundreds := registers 0
  have second : ((s.digitsStored x).loadRegisters 2).register 1 = tens := registers 1
  have third : ((s.digitsStored x).loadRegisters 2).register 2 = units := registers 2
  refine ⟨s.digitsStored x, _, execute_of_storeDigits stores range, loaded, rfl,
    loadRegisters_eq _ 2, ?_⟩
  rw [first, second, third]
  refine ⟨h, t, u, value, fun k above => ?_, fun a outside => ?_⟩
  · rw [registers, if_neg (Fin.not_le.mpr above)]
  · rw [memory_loadRegisters]
    exact read_digitsStored_elsewhere outside

/-- The digits of register 1, which is loaded over.  The index is the last one that fits 32 bits, and the
    second digit goes round the end of memory. -/
theorem digits_read_back_round_the_end :
    let s : State :=
      { fresh RandomKey.zero with
        index := 0x7FFFFFFF
        registers := (Vector.replicate 16 7).set 1 209 }
    Signed.fits32 s.index ∧
      ∃ t v,
        s.execute Devices.idle 0xF133 = (.ok t, Devices.idle) ∧
        t.execute Devices.idle 0xF265 = (.ok v, Devices.idle) ∧
        (v.register 0).toNat = 2 ∧ (v.register 1).toNat = 0 ∧ (v.register 2).toNat = 9 ∧
        v.register 3 = 7 ∧ v.index = 0x7FFFFFFF ∧ v.memory.read 2 = 0x90 := by
  intro s
  have range : Signed.fits32 s.index := by decide
  obtain ⟨t, v, stored, loaded, kept, kept', h, t', u, value, others, outside⟩ :=
    @digits_read_back s Devices.idle Devices.idle 1 0xF133 0xF265 rfl rfl range
  have byte : (s.register 1).toNat = 209 := by decide
  have glyph : s.memory.read 2 = 0x90 := (Memory.read_fresh _).trans (by decide)
  rw [byte] at value
  refine ⟨range, t, v, stored, loaded, by omega, by omega, by omega, ?_, ?_, ?_⟩
  · rw [others 3 (by decide)]
    rfl
  · rw [kept', kept]
  · rw [outside 2, glyph]
    intro k below
    show ((0x7FFFFFFF : Int) + k) % 4096 ≠ 2 % 4096
    omega

end Chip8.State
