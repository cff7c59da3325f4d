/-
  Registers saved in memory and loaded again.

  Saving and loading go through the same addresses, from the index on and round the end of memory.  There
  are at most sixteen of them, so no two are the same byte, and what is saved in one place is never
  overwritten from the next: `Memory.read_writeBlock_add` has a bound on the length for no other reason.

  Two facts about blocks carry everything here.  A byte is read back from where it was written, and writing
  what memory holds already changes nothing (`Memory.writeBlock_self`).  The first makes loading after
  saving give back the registers; the second makes saving after loading, and saving twice, give back the
  memory (`State.saved_self`).

  The addresses of a block may as well be formed in words of 32 bits that overflow, since a turn through all
  of them is a whole number of memories: `Memory.readBlock_wrapped`, `Memory.writeBlock_wrapped` and
  `State.register_loadRegisters_wrapped`.
-/
import Chip8.Proofs.Footprint

namespace Chip8

/-! ## Blocks of memory -/

namespace Memory

/-- A byte of a block is read back, if the block does not meet itself round the end. -/
theorem read_writeBlock_add : ∀ (bs : List UInt8) (m : Memory) (a : Int), bs.length ≤ 4096 →
    ∀ {k : Nat} {b : UInt8}, bs[k]? = some b → (m.writeBlock a bs).read (a + k) = b := by
  intro bs
  induction bs with
  | nil =>
    intro m a _ k b found
    cases found
  | cons first rest ih =>
    intro m a short k b found
    rw [List.length_cons] at short
    cases k with
    | zero =>
      cases found
      rw [writeBlock, read_writeBlock, read_write, if_pos (by omega)]
      intro k below
      omega
    | succ k =>
      have later := ih (m.write a first) (a + 1) (by omega) found
      rw [show a + ((k + 1 : Nat) : Int) = a + 1 + (k : Int) by omega]
      exact later

theorem write_self (m : Memory) (a : Int) : m.write a (m.read a) = m :=
  Vector.set_getElem_self (Address.ofInt a).isLt

/-- Writing what is there changes nothing. -/
theorem writeBlock_self : ∀ (bs : List UInt8) (m : Memory) (a : Int),
    (∀ (k : Nat) (b : UInt8), bs[k]? = some b → m.read (a + k) = b) → m.writeBlock a bs = m := by
  intro bs
  induction bs with
  | nil => intro m a _; rfl
  | cons first rest ih =>
    intro m a held
    have head : m.read a = first := by
      have := held 0 first rfl
      rwa [show a + ((0 : Nat) : Int) = a by omega] at this
    rw [writeBlock, ← head, write_self]
    refine ih m (a + 1) fun k b found => ?_
    rw [show a + 1 + (k : Int) = a + ((k + 1 : Nat) : Int) by omega]
    exact held (k + 1) b found

/-! ## Addresses formed in 32 bits -/

theorem ofInt_last32 (a : Int) : Address.ofInt (Signed.last32 a) = Address.ofInt a := by
  have same : Signed.last32 a % 4096 = a % 4096 := by
    simp only [Signed.last32]
    omega
  simp only [Address.ofInt, same]

theorem read_last32 (m : Memory) (a : Int) : m.read (Signed.last32 a) = m.read a := by
  simp only [read, ofInt_last32]

theorem write_last32 (m : Memory) (a : Int) (b : UInt8) : m.write (Signed.last32 a) b = m.write a b := by
  simp only [write, ofInt_last32]

/-- Reading a block does not depend on whether its addresses overflow. -/
theorem readBlock_wrapped (m : Memory) (a : Int) (n : Nat) :
    ((List.range n).map fun k : Nat => m.read (Signed.last32 (a + k))) = m.readBlock a n := by
  simp only [read_last32, readBlock]

/-- Writing a block does not depend on whether its addresses overflow.  By induction on the bytes, the first of
    them being number `k` of the block. -/
theorem writeBlock_wrapped (a : Int) : ∀ (bs : List UInt8) (k : Nat) (m : Memory),
    (bs.zipIdx k).foldl (fun m p => m.write (Signed.last32 (a + p.2)) p.1) m = m.writeBlock (a + k) bs := by
  intro bs
  induction bs with
  | nil => intro k m; rfl
  | cons b rest ih =>
    intro k m
    rw [List.zipIdx_cons, List.foldl_cons, ih (k + 1), write_last32, writeBlock]
    rw [show a + ((k + 1 : Nat) : Int) = a + k + 1 by omega]

end Memory

/-! ## Saving and loading -/

namespace State

variable {s u : State} {d : Devices} {w : Word} {x k : Register}

/-- The state with the registers up to `x` saved. -/
def saved (s : State) (x : Register) : State :=
  { s with memory := s.memory.writeBlock s.index (s.firstRegisters x) }

theorem execute_of_save (word : w.toNat = 0xF055 + 0x100 * x.val) (range : Signed.fits32 s.index) :
    s.execute d w = (.ok (s.saved x), d) :=
  execute_of_perform (Instruction.decode?_of_misc_number 0x55 word) range

theorem execute_of_load (word : w.toNat = 0xF065 + 0x100 * x.val) (range : Signed.fits32 s.index) :
    s.execute d w = (.ok (s.loadRegisters x), d) :=
  execute_of_perform (Instruction.decode?_of_misc_number 0x65 word) range

theorem getElem?_firstRegisters (s : State) (x : Register) (k : Nat) (b : UInt8) :
    (s.firstRegisters x)[k]? = some b ↔ ∃ r : Register, r.val = k ∧ r ≤ x ∧ s.register r = b := by
  have := x.isLt
  rw [firstRegisters, List.getElem?_take]
  constructor
  · intro found
    split at found
    · rename_i upTo
      have bound : k < 16 := by omega
      rw [List.getElem?_eq_getElem (by simpa using bound), Vector.getElem_toList] at found
      exact ⟨⟨k, bound⟩, rfl, Fin.le_def.mpr (by simp only; omega), Option.some.inj found⟩
    · cases found
  · rintro ⟨r, rfl, upTo, rfl⟩
    have upTo := Fin.le_def.mp upTo
    rw [if_pos (by omega), List.getElem?_eq_getElem (by simp), Vector.getElem_toList]
    rfl

theorem read_saved (s : State) (upTo : k ≤ x) :
    (s.saved x).memory.read (s.index + k.val) = s.register k := by
  have := x.isLt
  have short : (s.firstRegisters x).length ≤ 4096 := by
    rw [length_firstRegisters]
    omega
  exact Memory.read_writeBlock_add _ s.memory s.index short
    ((getElem?_firstRegisters s x k _).mpr ⟨k, rfl, upTo, rfl⟩)

/-- Registers that memory holds already are saved without a change. -/
theorem saved_self (held : ∀ k ≤ x, u.memory.read (u.index + k.val) = u.register k) :
    u.saved x = u := by
  have same : u.memory.writeBlock u.index (u.firstRegisters x) = u.memory := by
    refine Memory.writeBlock_self _ _ _ fun k b found => ?_
    obtain ⟨r, rfl, upTo, rfl⟩ := (getElem?_firstRegisters u x k b).mp found
    exact held r upTo
  rw [saved, same]

@[simp] theorem memory_loadRegisters (s : State) (x : Register) :
    (s.loadRegisters x).memory = s.memory := by
  unfold loadRegisters
  rfl

@[simp] theorem index_loadRegisters (s : State) (x : Register) :
    (s.loadRegisters x).index = s.index := by
  unfold loadRegisters
  rfl

theorem register_loadRegisters (s : State) (x k : Register) :
    (s.loadRegisters x).register k =
      if k ≤ x then s.memory.read (s.index + k.val) else s.register k := by
  simp [loadRegisters, register]

/-- What is loaded does not depend on whether the addresses overflow. -/
theorem register_loadRegisters_wrapped (s : State) (x k : Register) :
    (s.loadRegisters x).register k =
      if k ≤ x then s.memory.read (Signed.last32 (s.index + k.val)) else s.register k := by
  rw [register_loadRegisters, Memory.read_last32]

/-- **Saving and loading are inverse.**  Wherever the index points within 32 bits, both are carried out.
    Saving touches no byte but those from the index on, one for each register.  After it, whatever else has
    become of the state, loading gives back the registers as they were saved and leaves the others alone,
    and saving the same registers again changes nothing.  And registers that were loaded are saved to where
    they came from without a change. -/
theorem registers_round_trip (s : State) (d : Devices) (x : Register) {save load : Word}
    (saves : save.toNat = 0xF055 + 0x100 * x.val) (loads : load.toNat = 0xF065 + 0x100 * x.val)
    (range : Signed.fits32 s.index) :
    (∃ t, s.execute d save = (.ok t, d) ∧ t = { s with memory := t.memory } ∧
      (∀ a : Int, (∀ k : Nat, k ≤ x.val → (s.index + k) % 4096 ≠ a % 4096) →
        t.memory.read a = s.memory.read a) ∧
      ∀ (u : State) (d' : Devices), u.memory = t.memory → u.index = t.index →
        (∃ v, u.execute d' load = (.ok v, d') ∧ v = { u with registers := v.registers } ∧
          ∀ k, v.register k = if k ≤ x then s.register k else u.register k) ∧
        ((∀ k ≤ x, u.register k = t.register k) → u.execute d' save = (.ok u, d'))) ∧
    ∃ t, s.execute d load = (.ok t, d) ∧ t = { s with registers := t.registers } ∧
      t.execute d save = (.ok t, d) := by
  refine ⟨⟨s.saved x, execute_of_save saves range, rfl, ?_, ?_⟩, ?_⟩
  · intro a outside
    refine Memory.read_writeBlock _ _ _ fun k below => outside k ?_
    rw [length_firstRegisters] at below
    omega
  · intro u d' memory index
    have index : u.index = s.index := index
    have range : Signed.fits32 u.index := by rwa [index]
    have held : ∀ k ≤ x, u.memory.read (u.index + k.val) = s.register k := by
      intro k upTo
      rw [memory, index]
      exact s.read_saved upTo
    constructor
    · refine ⟨u.loadRegisters x, execute_of_load loads range, loadRegisters_eq u x, fun k => ?_⟩
      rw [register_loadRegisters]
      split
      · rename_i upTo
        exact held k upTo
      · rfl
    · intro same
      have kept : u.saved x = u := saved_self fun k upTo => (held k upTo).trans (same k upTo).symm
      rw [execute_of_save saves range, kept]
  · have kept : (s.loadRegisters x).saved x = s.loadRegisters x := by
      refine saved_self fun k upTo => ?_
      rw [register_loadRegisters, if_pos upTo, memory_loadRegisters, index_loadRegisters]
    have range' : Signed.fits32 (s.loadRegisters x).index := by rwa [index_loadRegisters]
    refine ⟨s.loadRegisters x, execute_of_load loads range, loadRegisters_eq s x, ?_⟩
    rw [execute_of_save saves range', kept]

/-- Four registers at the last index but one that fits 32 bits, which is also two bytes before the end of
    memory: cleared and loaded again. -/
theorem registers_round_trip_past_the_end :
    let s : State :=
      { fresh RandomKey.zero with
        index := 0x7FFFFFFE
        registers := (Vector.replicate 16 7).set 2 9 }
    Signed.fits32 s.index ∧
      ∃ t v,
        s.execute Devices.idle 0xF355 = (.ok t, Devices.idle) ∧ t.memory.read 2 = 0x90 ∧
        { t with registers := Vector.replicate 16 0 }.execute Devices.idle 0xF365 =
          (.ok v, Devices.idle) ∧
        v.register 2 = 9 ∧ v.register 4 = 0 := by
  intro s
  have range : Signed.fits32 s.index := by decide
  obtain ⟨⟨t, saved, -, outside, later⟩, -⟩ :=
    @registers_round_trip s Devices.idle 3 0xF355 0xF365 rfl rfl range
  obtain ⟨⟨v, loaded, -, registers⟩, -⟩ :=
    later { t with registers := Vector.replicate 16 0 } Devices.idle rfl rfl
  have glyph : s.memory.read 2 = 0x90 := (Memory.read_fresh _).trans (by decide)
  refine ⟨range, t, v, saved, ?_, loaded, ?_, ?_⟩
  · rw [outside 2, glyph]
    intro k upTo
    have upTo : k ≤ 3 := upTo
    show ((0x7FFFFFFE : Int) + k) % 4096 ≠ 2 % 4096
    omega
  · rw [registers, if_pos (by decide)]
    rfl
  · rw [registers, if_neg (by decide)]
    rfl

end State

end Chip8
