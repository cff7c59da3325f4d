/-
  Which words stand for what.

  A word is decoded nibble by nibble, and the statements about it are made in terms of the NUMBER that
  it is: the first nibble is the quotient by 0x1000, the last nibble and the last byte are the
  remainders by 0x10 and 0x100.

  Five families leave words undefined (`decode?_eq_none_iff`).  Every instruction has a single word,
  whose number is `Instruction.number`, and a word that decodes to an instruction IS that number
  (`toNat_of_decode?`).  Hence whatever is known of an instruction is known of its words by arithmetic,
  without going through the decoding again.  The other way round, a few families are decoded by their
  number at sight.
-/
import Chip8.Machine.Instruction

namespace Chip8

variable {w : Word}

/-! ## Fields as parts of the number -/

theorem Word.family_eq (w : Word) : w.family.val = w.toNat / 0x1000 := by
  have := w.toNat_lt
  simp only [Word.family]; omega

theorem Word.eq_iff_toNat {v : Word} : w = v ↔ w.toNat = v.toNat := UInt16.toNat_inj.symm

/-- A number with a nibble for the family, one for the register and a byte is taken apart by the fields. -/
theorem Word.fields_of_number {f x b : Nat} (h : w.toNat = 0x1000 * f + 0x100 * x + b)
    (register : x < 0x10) (byte : b < 0x100) : w.family.val = f ∧ w.x.val = x ∧ w.nn.toNat = b := by
  have fields := w.toNat_eq_fields
  have last := w.toNat_nn_eq
  have := w.x.isLt
  have := w.nn.toNat_lt
  omega

/-- The numbers of the words of family `F` with the given last byte, `FXNN`. -/
def Word.Misc (nn r : Nat) : Prop := r / 0x1000 = 0xF ∧ r % 0x100 = nn

instance (nn r : Nat) : Decidable (Word.Misc nn r) :=
  inferInstanceAs (Decidable (r / 0x1000 = 0xF ∧ r % 0x100 = nn))

/-! ## The numbers of instructions -/

/-- The last nibble of the words of an operation. -/
def AluOp.nibble : AluOp → Nat
  | .copy => 0x0
  | .or => 0x1
  | .and => 0x2
  | .xor => 0x3
  | .add => 0x4
  | .subtract => 0x5
  | .shiftRight => 0x6
  | .subtractFrom => 0x7
  | .shiftLeft => 0xE

theorem AluOp.nibble_of_ofNibble? {n : Nibble} {op : AluOp} (h : ofNibble? n = some op) :
    n.val = op.nibble := by
  cases op <;> revert n <;> decide

theorem AluOp.ofNibble?_of_nibble {n : Nibble} {op : AluOp} (h : n.val = op.nibble) :
    ofNibble? n = some op := by
  cases op <;> revert n <;> decide

/-- The word that skips on a condition, as a number. -/
def Condition.number : Condition → Nat
  | .equalsByte x b => 0x3000 + 0x100 * x.val + b.toNat
  | .differsByte x b => 0x4000 + 0x100 * x.val + b.toNat
  | .equal x y => 0x5000 + 0x100 * x.val + 0x10 * y.val
  | .differ x y => 0x9000 + 0x100 * x.val + 0x10 * y.val
  | .keyHeld x => 0xE09E + 0x100 * x.val
  | .keyFree x => 0xE0A1 + 0x100 * x.val

/-- The word of an instruction, as a number. -/
def Instruction.number : Instruction → Nat
  | .machineCall a => a.val
  | .clear => 0x00E0
  | .ret => 0x00EE
  | .jump a => 0x1000 + a.val
  | .call a => 0x2000 + a.val
  | .skip c => c.number
  | .set x b => 0x6000 + 0x100 * x.val + b.toNat
  | .addByte x b => 0x7000 + 0x100 * x.val + b.toNat
  | .combine op x y => 0x8000 + 0x100 * x.val + 0x10 * y.val + op.nibble
  | .setIndex a => 0xA000 + a.val
  | .jumpOffset a => 0xB000 + a.val
  | .random x b => 0xC000 + 0x100 * x.val + b.toNat
  | .draw x y n => 0xD000 + 0x100 * x.val + 0x10 * y.val + n.val
  | .getDelay x => 0xF007 + 0x100 * x.val
  | .awaitKey x => 0xF00A + 0x100 * x.val
  | .setDelay x => 0xF015 + 0x100 * x.val
  | .setSound x => 0xF018 + 0x100 * x.val
  | .addIndex x => 0xF01E + 0x100 * x.val
  | .pointGlyph x => 0xF029 + 0x100 * x.val
  | .storeDigits x => 0xF033 + 0x100 * x.val
  | .saveRegisters x => 0xF055 + 0x100 * x.val
  | .loadRegisters x => 0xF065 + 0x100 * x.val

namespace Instruction

/-! ## Undefined words -/

/-- The last bytes of the instructions of family `F`. -/
def miscBytes : List Nat := [0x07, 0x0A, 0x15, 0x18, 0x1E, 0x29, 0x33, 0x55, 0x65]

/-- Words that no instruction has, as numbers. -/
inductive Undefined (r : Nat) : Prop
  /-- Between two registers a comparison ends in 0. -/
  | comparison (family : r / 0x1000 = 5 ∨ r / 0x1000 = 9) (last : r % 0x10 ≠ 0)
  /-- Between two registers there are nine operations. -/
  | operation (family : r / 0x1000 = 8) (last : 8 ≤ r % 0x10 ∧ r % 0x10 ≤ 0xD ∨ r % 0x10 = 0xF)
  /-- A key is asked for in two ways. -/
  | key (family : r / 0x1000 = 0xE) (last : r % 0x100 ≠ 0x9E ∧ r % 0x100 ≠ 0xA1)
  /-- The last family has nine members. -/
  | misc (family : r / 0x1000 = 0xF) (last : r % 0x100 ∉ miscBytes)

theorem ofNibble?_eq_none_iff (n : Nibble) :
    AluOp.ofNibble? n = none ↔ 8 ≤ n.val ∧ n.val ≤ 0xD ∨ n.val = 0xF := by
  revert n; decide

theorem decodeMisc?_eq_none_iff (x : Register) (nn : UInt8) :
    decodeMisc? x nn = none ↔ nn.toNat ∉ miscBytes := by
  unfold decodeMisc? miscBytes
  split <;> simp_all

/-- The undefined words are those that decode to nothing. -/
theorem decode?_eq_none_iff (w : Word) : decode? w = none ↔ Undefined w.toNat := by
  have family := w.family_eq
  have bound := w.family.isLt
  have last : w.n.val = w.toNat % 0x10 := rfl
  have byte := w.toNat_nn
  constructor
  · intro h
    unfold decode? at h
    split at h
    case h_6 hf =>
      split at h
      · cases h
      · exact .comparison (by omega) (by omega)
    case h_9 hf =>
      rw [Option.map_eq_none_iff, ofNibble?_eq_none_iff] at h
      exact .operation (by omega) (by omega)
    case h_10 hf =>
      split at h
      · cases h
      · exact .comparison (by omega) (by omega)
    case h_15 hf =>
      split at h
      · cases h
      · split at h
        · cases h
        · rename_i h9E hA1
          rw [← UInt8.toNat_inj] at h9E hA1
          exact .key (by omega) ⟨byte ▸ h9E, byte ▸ hA1⟩
    case h_16 =>
      -- the last family is what none of the others is
      simp only [imp_false] at *
      rw [decodeMisc?_eq_none_iff, byte] at h
      exact .misc (by omega) h
    all_goals cases h
  · rintro (⟨hf | hf, hl⟩ | ⟨hf, hl⟩ | ⟨hf, hl⟩ | ⟨hf, hl⟩)
    · have hf : w.family.val = 5 := by omega
      simp only [decode?, hf]
      exact if_neg (by omega)
    · have hf : w.family.val = 9 := by omega
      simp only [decode?, hf]
      exact if_neg (by omega)
    · have hf : w.family.val = 8 := by omega
      simp only [decode?, hf, Option.map_eq_none_iff, ofNibble?_eq_none_iff]
      omega
    · have hf : w.family.val = 0xE := by omega
      simp only [decode?, hf, ← UInt8.toNat_inj]
      rw [if_neg (byte ▸ hl.1), if_neg (byte ▸ hl.2)]
    · have hf : w.family.val = 0xF := by omega
      simp only [decode?, hf]
      rw [decodeMisc?_eq_none_iff, byte]
      exact hl

/-! ## Words and their instructions -/

theorem toNat_of_decodeMisc? {x : Register} {nn : UInt8} {i : Instruction}
    (h : decodeMisc? x nn = some i) : i.number = 0xF000 + 0x100 * x.val + nn.toNat := by
  unfold decodeMisc? at h
  split at h
  case h_10 => cases h
  all_goals
    rename_i byte
    cases h
    simp only [number]
    omega

/-- A word that decodes to an instruction is the word of that instruction. -/
theorem toNat_of_decode? {i : Instruction} (h : decode? w = some i) : w.toNat = i.number := by
  have fields := w.toNat_eq_fields
  have byte := w.toNat_nn_eq
  have address := w.nnn_eq
  unfold decode? at h
  split at h
  case h_1 =>
    cases h
    split
    · rename_i clear; rw [clear]; rfl
    · split
      · rename_i ret; rw [ret]; rfl
      · simp only [number]; omega
  case h_6 =>
    split at h
    · cases h; simp only [number, Condition.number]; omega
    · cases h
  case h_9 =>
    obtain ⟨op, found, rfl⟩ := Option.map_eq_some_iff.mp h
    have last := AluOp.nibble_of_ofNibble? found
    simp only [number]; omega
  case h_10 =>
    split at h
    · cases h; simp only [number, Condition.number]; omega
    · cases h
  case h_15 =>
    split at h
    · rename_i held
      have := congrArg UInt8.toNat held
      cases h; simp only [number, Condition.number, UInt8.reduceToNat] at *; omega
    · split at h
      · rename_i free
        have := congrArg UInt8.toNat free
        cases h; simp only [number, Condition.number, UInt8.reduceToNat] at *; omega
      · cases h
  case h_16 =>
    -- the last family is what none of the others is
    have bound := w.family.isLt
    simp only [imp_false] at *
    rw [toNat_of_decodeMisc? h]
    omega
  all_goals
    cases h
    simp only [number, Condition.number]
    omega

theorem decode?_of_jump (h : w.toNat / 0x1000 = 1) : decode? w = some (.jump w.nnn) := by
  have hf : w.family.val = 1 := by rw [w.family_eq, h]
  simp only [decode?, hf]

theorem decode?_of_call (h : w.toNat / 0x1000 = 2) : decode? w = some (.call w.nnn) := by
  have hf : w.family.val = 2 := by rw [w.family_eq, h]
  simp only [decode?, hf]

theorem decode?_of_addByte (h : w.toNat / 0x1000 = 7) :
    decode? w = some (.addByte w.x w.nn) := by
  have hf : w.family.val = 7 := by rw [w.family_eq, h]
  simp only [decode?, hf]

theorem decode?_of_combine {op : AluOp} (h : w.toNat / 0x1000 = 8)
    (last : w.toNat % 0x10 = op.nibble) : decode? w = some (.combine op w.x w.y) := by
  have hf : w.family.val = 8 := by rw [w.family_eq, h]
  have operation : AluOp.ofNibble? w.n = some op := AluOp.ofNibble?_of_nibble last
  simp only [decode?, hf, operation, Option.map_some]

theorem decode?_of_jumpOffset (h : w.toNat / 0x1000 = 0xB) :
    decode? w = some (.jumpOffset w.nnn) := by
  have hf : w.family.val = 0xB := by rw [w.family_eq, h]
  simp only [decode?, hf]

theorem decode?_of_random (h : w.toNat / 0x1000 = 0xC) : decode? w = some (.random w.x w.nn) := by
  have hf : w.family.val = 0xC := by rw [w.family_eq, h]
  simp only [decode?, hf]

theorem decode?_of_draw (h : w.toNat / 0x1000 = 0xD) : decode? w = some (.draw w.x w.y w.n) := by
  have hf : w.family.val = 0xD := by rw [w.family_eq, h]
  simp only [decode?, hf]

/-- The words of family `F` are decoded by their last byte alone. -/
theorem decode?_of_misc (nn : UInt8) (h : Word.Misc nn.toNat w.toNat) :
    decode? w = decodeMisc? w.x nn := by
  have hf : w.family.val = 0xF := by rw [w.family_eq, h.1]
  have byte : w.nn = nn := UInt8.toNat_inj.mp (w.toNat_nn.trans h.2)
  simp only [decode?, hf, byte]

/-- A word of family `F`, told by its number. -/
theorem decode?_of_misc_number (nn : UInt8) {x : Register}
    (h : w.toNat = 0xF000 + nn.toNat + 0x100 * x.val) : decode? w = decodeMisc? x nn := by
  have number : w.toNat = 0xF000 + 0x100 * x.val + nn.toNat := by omega
  obtain ⟨hf, hx, hb⟩ := Word.fields_of_number (f := 0xF) number x.isLt nn.toNat_lt
  have misc : Word.Misc nn.toNat w.toNat := ⟨w.family_eq.symm.trans hf, w.toNat_nn.symm.trans hb⟩
  rw [decode?_of_misc nn misc, Fin.ext hx]

/-- The word that skips on a condition. -/
theorem decode?_of_skip {c : Condition} (h : w.toNat = c.number) : decode? w = some (.skip c) := by
  cases c with
  | equalsByte x b =>
    obtain ⟨hf, hx, hb⟩ := Word.fields_of_number (f := 3) h x.isLt b.toNat_lt
    simp only [decode?, hf, Fin.ext hx, UInt8.toNat_inj.mp hb]
  | differsByte x b =>
    obtain ⟨hf, hx, hb⟩ := Word.fields_of_number (f := 4) h x.isLt b.toNat_lt
    simp only [decode?, hf, Fin.ext hx, UInt8.toNat_inj.mp hb]
  | equal x y =>
    have := y.isLt
    obtain ⟨hf, hx, hb⟩ := Word.fields_of_number (f := 5) h x.isLt (by omega)
    obtain ⟨hy, hn⟩ : w.y.val = y.val ∧ w.n.val = 0 := by have := w.toNat_nn_eq; omega
    simp only [decode?, hf, Fin.ext hx, Fin.ext hy, hn, if_true]
  | differ x y =>
    have := y.isLt
    obtain ⟨hf, hx, hb⟩ := Word.fields_of_number (f := 9) h x.isLt (by omega)
    obtain ⟨hy, hn⟩ : w.y.val = y.val ∧ w.n.val = 0 := by have := w.toNat_nn_eq; omega
    simp only [decode?, hf, Fin.ext hx, Fin.ext hy, hn, if_true]
  | keyHeld x =>
    have number : w.toNat = 0xE000 + 0x100 * x.val + 0x9E := by
      rw [h, Condition.number]; omega
    obtain ⟨hf, hx, hb⟩ := Word.fields_of_number (f := 0xE) number x.isLt (by decide)
    have held : w.nn = 0x9E := UInt8.toNat_inj.mp hb
    simp only [decode?, hf, Fin.ext hx, held, if_true]
  | keyFree x =>
    have number : w.toNat = 0xE000 + 0x100 * x.val + 0xA1 := by
      rw [h, Condition.number]; omega
    obtain ⟨hf, hx, hb⟩ := Word.fields_of_number (f := 0xE) number x.isLt (by decide)
    have free : w.nn = 0xA1 := UInt8.toNat_inj.mp hb
    have other : (0xA1 : UInt8) ≠ 0x9E := by decide
    simp only [decode?, hf, Fin.ext hx, free, if_neg other, if_true]

end Instruction

end Chip8
