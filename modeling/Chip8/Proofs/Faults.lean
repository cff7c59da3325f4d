/-
  Faults: which words have them, and what they leave.

  WHICH.  Whether a word faults is a matter of its number and of the depth of the call stack.
  `FaultKind.Arises` gives the condition for each kind of fault in these two terms, and
  `execute_error_iff` says that they are exactly the ways in which a word fails: nothing else is refused,
  no key and no index, as long as the index is an address and the delay a byte.

  WHAT THEY LEAVE.  A cycle that faults leaves machine and devices as it found them.  Hence the next
  cycle comes upon the same word and the same call stack and faults in the same way, and so does every
  later one, whatever the devices show by then (`fault_permanent`).
-/
import Chip8.Proofs.Decoding
import Chip8.Proofs.Execution
import Chip8.Proofs.History

namespace Chip8

/-! ## Which words fault -/

/-- Whether a fault of this kind arises from a word, given as a number, when so many slots of the call
    stack are in use. -/
def FaultKind.Arises (r depth : Nat) : FaultKind → Prop
  | .machineCall => r ≤ 0x0FFF ∧ r ≠ 0x00E0 ∧ r ≠ 0x00EE
  | .stackUnderflow => r = 0x00EE ∧ depth = 0
  | .stackOverflow => r / 0x1000 = 2 ∧ depth = 16
  | .unknownOpcode => Instruction.Undefined r
  | .unspecified => False

namespace Word

variable {w : Word} {k : CallStack}

/-- The words of family `0` are the two that are spelled out and the machine-language calls. -/
theorem fault?_of_system (h : w.toNat / 0x1000 = 0) (k : CallStack) :
    w.fault? k =
      if w.toNat = 0x00E0 then none
      else if w.toNat = 0x00EE then (if k.depth = 0 then some .stackUnderflow else none)
      else some .machineCall := by
  have hf : w.family.val = 0 := by rw [w.family_eq, h]
  simp only [fault?, Instruction.decode?, hf, eq_iff_toNat, UInt16.reduceToNat]
  by_cases hE0 : w.toNat = 0x00E0
  · rw [if_pos hE0, if_pos hE0]; rfl
  · rw [if_neg hE0, if_neg hE0]
    by_cases hEE : w.toNat = 0x00EE
    · rw [if_pos hEE, if_pos hEE]; rfl
    · rw [if_neg hEE, if_neg hEE]; rfl

theorem fault?_of_call (h : w.toNat / 0x1000 = 2) (k : CallStack) :
    w.fault? k = if k.depth = 16 then some .stackOverflow else none := by
  rw [fault?_of_decode (Instruction.decode?_of_call h)]
  rfl

/-- Outside the families of calls and returns no instruction faults. -/
theorem fault?_of_other {i : Instruction} (h : Instruction.decode? w = some i)
    (system : w.toNat / 0x1000 ≠ 0) (call : w.toNat / 0x1000 ≠ 2) (k : CallStack) :
    i.fault? k = none := by
  have family := w.family_eq
  unfold Instruction.decode? at h
  split at h
  case h_1 => omega
  case h_3 => omega
  case h_6 => split at h <;> cases h; rfl
  case h_9 =>
    obtain ⟨op, -, rfl⟩ := Option.map_eq_some_iff.mp h
    rfl
  case h_10 => split at h <;> cases h; rfl
  case h_15 =>
    split at h
    · cases h; rfl
    · split at h <;> cases h; rfl
  case h_16 => unfold Instruction.decodeMisc? at h; split at h <;> cases h <;> rfl
  all_goals cases h; rfl

theorem fault?_of_arises {kind : FaultKind} (h : kind.Arises w.toNat k.depth) :
    w.fault? k = some kind := by
  cases kind with
  | machineCall =>
    obtain ⟨bound, hE0, hEE⟩ := h
    rw [fault?_of_system (by omega), if_neg hE0, if_neg hEE]
  | stackUnderflow =>
    obtain ⟨hEE, empty⟩ := h
    rw [fault?_of_system (by omega), if_neg (by omega), if_pos hEE, if_pos empty]
  | stackOverflow =>
    obtain ⟨call, full⟩ := h
    rw [fault?_of_call call, if_pos full]
  | unknownOpcode => simp only [fault?, (Instruction.decode?_eq_none_iff w).mpr h]
  | unspecified => exact h.elim

theorem arises_of_fault? {kind : FaultKind} (h : w.fault? k = some kind) :
    kind.Arises w.toNat k.depth := by
  by_cases system : w.toNat / 0x1000 = 0
  · rw [fault?_of_system system] at h
    split at h
    · cases h
    · rename_i hE0
      split at h
      · rename_i hEE
        split at h
        · rename_i empty
          cases h
          exact ⟨hEE, empty⟩
        · cases h
      · rename_i hEE
        cases h
        exact ⟨by omega, hE0, hEE⟩
  · -- outside family 0 a word is a call, undefined, or without a fault
    by_cases call : w.toNat / 0x1000 = 2
    · rw [fault?_of_call call] at h
      split at h
      · rename_i full
        cases h
        exact ⟨call, full⟩
      · cases h
    · cases hd : Instruction.decode? w with
      | none =>
        simp only [fault?, hd] at h
        cases h
        exact (Instruction.decode?_eq_none_iff w).mp hd
      | some i =>
        rw [fault?_of_decode hd, fault?_of_other hd system call] at h
        cases h

end Word

namespace State

/-- **The exact faults.**  With the index an address and the delay a byte, a word fails just when a
    fault arises from its number, with this fault and no other failure; otherwise it yields a state. -/
theorem execute_error_iff (s : State) (index : 0 ≤ s.index ∧ s.index ≤ 0xFFF)
    (delay : 0 ≤ s.delay ∧ s.delay ≤ 255) (d : Devices) (word : Int) :
    let r := (word % 65536).toNat
    (∀ t, (s.execute d (Word.ofInt word)).1 = .error t ↔
      ∃ kind : FaultKind, kind.Arises r s.stack.depth ∧ t = .fault { kind, opcode := r }) ∧
    ((∀ kind : FaultKind, ¬ kind.Arises r s.stack.depth) →
      ∃ u, (s.execute d (Word.ofInt word)).1 = .ok u) := by
  intro r
  have number : (Word.ofInt word).toNat = r := by have := Word.toNat_ofInt word; omega
  cases hf : (Word.ofInt word).fault? s.stack with
  | some kind =>
    have arises : kind.Arises r s.stack.depth := number ▸ Word.arises_of_fault? hf
    rw [execute_of_fault hf]
    refine ⟨fun t => ⟨?_, ?_⟩, fun quiet => absurd arises (quiet kind)⟩
    · intro h
      cases h
      exact ⟨kind, arises, by rw [← number]; rfl⟩
    · -- two faults of one word would be two answers of `fault?`
      rintro ⟨kind', arises', rfl⟩
      have same := Word.fault?_of_arises (number.symm ▸ arises')
      rw [hf] at same
      cases same
      rw [← number]
      rfl
  | none =>
    obtain ⟨u, d', run⟩ := execute_ok_of_bounds (d := d) index delay hf
    rw [run]
    refine ⟨fun t => ⟨?_, ?_⟩, fun _ => ⟨u, rfl⟩⟩
    · intro h
      cases h
    · rintro ⟨kind, arises, -⟩
      have found := Word.fault?_of_arises (number.symm ▸ arises)
      rw [hf] at found
      cases found

/-- A negative number whose last sixteen bits are a call, and no slot left for it. -/
theorem execute_error_iff_of_full_stack :
    let s : State :=
      { fresh RandomKey.zero with stack := { slots := Vector.replicate 16 0x200, depth := 16 } }
    (0 ≤ s.index ∧ s.index ≤ 0xFFF) ∧ (0 ≤ s.delay ∧ s.delay ≤ 255) ∧
      (s.execute Devices.idle (Word.ofInt (-0xDCBB))).1 =
        .error (.fault { kind := .stackOverflow, opcode := 0x2345 }) := by
  intro s
  have index : 0 ≤ s.index ∧ s.index ≤ 0xFFF := by decide
  have delay : 0 ≤ s.delay ∧ s.delay ≤ 255 := by decide
  refine ⟨index, delay, ?_⟩
  apply ((execute_error_iff s index delay Devices.idle (-0xDCBB)).1 _).mpr
  exact ⟨.stackOverflow, ⟨rfl, rfl⟩, rfl⟩

end State

/-! ## Permanence -/

namespace Machine

/-- **Faults change nothing and are permanent.**  A cycle that faults leaves machine and devices as
    they were and names the fetched word and where it was fetched; and every later cycle, on whatever
    devices, faults in the same way and changes nothing either. -/
theorem fault_permanent (m : Machine) (d : Devices) (f : Fault)
    (h : (m.cycle d).trap = some (.fault f)) :
    (m.cycle d).machine = m ∧ (m.cycle d).devices = d ∧
      f.opcode = m.state.fetch.1.toNat ∧ f.address = some (m.state.counter % 4096) ∧
      ∀ ds : List Devices, m.attempts ds = ds.map fun d' => ⟨m, d', some (.fault f)⟩ := by
  obtain ⟨kind, fault, rfl⟩ := fault?_of_trap h
  rw [cycle_of_fault fault]
  refine ⟨rfl, rfl, rfl, rfl, fun ds => ?_⟩
  -- every attempt starts from `m` again, so that the fault of its next word is found again
  induction ds with
  | nil => rfl
  | cons d' rest ih =>
    rw [attempts, cycle_of_fault fault, List.map_cons, ih]

/-- A call from a counter outside the addresses, without a slot left for it, tried again with a key
    held. -/
theorem fault_permanent_of_full_stack :
    let m : Machine := ofState
      { State.fresh RandomKey.zero with
        memory := (Memory.fresh.write 0x200 0x23).write 0x201 0x45
        counter := -0xE00
        stack := { slots := Vector.replicate 16 0x200, depth := 16 } }
    let f : Fault := { kind := .stackOverflow, opcode := 0x2345, address := some 0x200 }
    let held : Devices := ⟨Screen.blank, Keypad.idle.set 5 true⟩
    (m.cycle Devices.idle).trap = some (.fault f) ∧
      m.attempts [Devices.idle, held] =
        [⟨m, Devices.idle, some (.fault f)⟩, ⟨m, held, some (.fault f)⟩] := by
  intro m f held
  have word : m.state.nextWord = 0x2345 := by
    simp only [m, ofState, State.nextWord, State.address, Memory.read_write]
    decide
  have fault : m.state.nextWord.fault? m.state.stack = some .stackOverflow :=
    Word.fault?_of_arises (by rw [word]; exact ⟨rfl, rfl⟩)
  have stops : (m.cycle Devices.idle).trap = some (.fault f) := by
    rw [cycle_of_fault fault, word]
    rfl
  obtain ⟨-, -, -, -, permanent⟩ := fault_permanent m Devices.idle f stops
  exact ⟨stops, permanent [Devices.idle, held]⟩

end Machine

end Chip8
