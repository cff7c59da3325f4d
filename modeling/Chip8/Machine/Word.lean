/-
  Instruction words and the fields that instructions take from them.

  A word is sixteen bits.  Its first nibble names the family of the instruction; the rest is read
  as two register numbers `x` and `y` and a nibble `n`, as a byte `nn` in the last eight bits, or
  as an address `nnn` in the last twelve.  The three readings overlap, and `toNat_eq_fields` with
  its companions says how: the fields put back together are the word.
-/

namespace Chip8

/-- A sixteen bit instruction word. -/
abbrev Word := UInt16

/-- Four bits. -/
abbrev Nibble := Fin 16

/-- The number of a register, `V0` to `VF`. -/
abbrev Register := Fin 16

/-- A twelve bit address. -/
abbrev Address := Fin 4096

namespace Word

/-- The word of an integer of any size or sign: its value modulo `65536`. -/
def ofInt (n : Int) : Word := UInt16.ofNat (n % 65536).toNat

/-- The word whose first byte is `high` and whose second is `low`. -/
def ofBytes (high low : UInt8) : Word := UInt16.ofNat (256 * high.toNat + low.toNat)

/-- The first nibble, which names the family of the instruction. -/
def family (w : Word) : Nibble := ⟨w.toNat / 4096 % 16, by omega⟩

/-- The second nibble. -/
def x (w : Word) : Nibble := ⟨w.toNat / 256 % 16, by omega⟩

/-- The third nibble. -/
def y (w : Word) : Nibble := ⟨w.toNat / 16 % 16, by omega⟩

/-- The fourth nibble. -/
def n (w : Word) : Nibble := ⟨w.toNat % 16, by omega⟩

/-- The last byte. -/
def nn (w : Word) : UInt8 := UInt8.ofNat w.toNat

/-- The last twelve bits. -/
def nnn (w : Word) : Address := ⟨w.toNat % 4096, by omega⟩

theorem toNat_ofInt (n : Int) : ((ofInt n).toNat : Int) = n % 65536 := by
  simp only [ofInt, UInt16.toNat_ofNat']; omega

theorem toNat_ofBytes (high low : UInt8) :
    (ofBytes high low).toNat = 256 * high.toNat + low.toNat := by
  have := high.toNat_lt; have := low.toNat_lt
  simp only [ofBytes, UInt16.toNat_ofNat']; omega

theorem toNat_nn (w : Word) : w.nn.toNat = w.toNat % 256 := by
  simp [nn]

/-- The four nibbles are the digits of the word to base sixteen. -/
theorem toNat_eq_fields (w : Word) :
    w.toNat = 4096 * w.family.val + 256 * w.x.val + 16 * w.y.val + w.n.val := by
  have := w.toNat_lt
  simp only [family, x, y, n]; omega

theorem toNat_nn_eq (w : Word) : w.nn.toNat = 16 * w.y.val + w.n.val := by
  rw [toNat_nn]; simp only [y, n]; omega

theorem nnn_eq (w : Word) : w.nnn.val = 256 * w.x.val + w.nn.toNat := by
  rw [toNat_nn]; simp only [nnn, x]; omega

end Word

/-- The address of an integer of any size or sign: its value modulo `4096`. -/
def Address.ofInt (a : Int) : Address := ⟨(a % 4096).toNat, by omega⟩

theorem Address.val_ofInt (a : Int) : ((Address.ofInt a).val : Int) = a % 4096 := by
  simp only [Address.ofInt]; omega

end Chip8
