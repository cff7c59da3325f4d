/-
  What a word may change, and that it changes nothing else.

  A state and its devices fall into PARTS: every byte of memory and every register is one, and so are
  counter, index, call stack, either timer, random key, screen and keypad.  `Part.eq_of_same` says that
  nothing is left over.

  For instructions the parts that may change are a list, `Instruction.footprint`.  It depends on the
  index, where memory is written, and on the keypad, where a key is waited for.  `perform_same` goes
  through the instructions once: whatever is not in the list stays as it was.

  For words they are told by the number of the word, `Word.Writes`, a line for each part.  A part in the
  footprint of an instruction is written by the word of that instruction (`writes_of_mem_footprint`),
  by arithmetic on that word, so that the two lists are shown to agree without another look at the
  instructions' work.
-/
import Chip8.Proofs.Decoding
import Chip8.Proofs.Execution

namespace Chip8

/-! ## Parts -/

/-- The parts of a state and of the devices that it works on. -/
inductive Part
  /-- The byte of memory at an address. -/
  | cell (a : Address)
  | register (x : Register)
  | counter
  | index
  | stack
  | delay
  | sound
  | key
  | screen
  | keypad
deriving DecidableEq

namespace Part

/-- Whether a part of `t` and `d'` is what it is of `s` and `d`. -/
def Same (s : State) (d : Devices) (t : State) (d' : Devices) : Part → Prop
  | .cell a => t.memory.read a.val = s.memory.read a.val
  | .register x => t.register x = s.register x
  | .counter => t.counter = s.counter
  | .index => t.index = s.index
  | .stack => t.stack = s.stack
  | .delay => t.delay = s.delay
  | .sound => t.sound = s.sound
  | .key => t.key = s.key
  | .screen => d'.screen = d.screen
  | .keypad => d'.keypad = d.keypad

variable {s t u : State} {d d' d'' : Devices} {p : Part}

theorem Same.trans (h : p.Same s d t d') (h' : p.Same t d' u d'') : p.Same s d u d'' := by
  cases p <;> exact Eq.trans h' h

/-- The parts are all there is. -/
theorem eq_of_same (h : ∀ p : Part, p.Same s d t d') : t = s ∧ d' = d := by
  have memory : t.memory = s.memory := by
    apply Vector.ext
    intro a ha
    have cell : t.memory.read a = s.memory.read a := h (.cell ⟨a, ha⟩)
    have place : (Address.ofInt a).val = a := by simp only [Address.ofInt]; omega
    simpa only [Memory.read, Fin.getElem_fin, place] using cell
  have registers : t.registers = s.registers := by
    apply Vector.ext
    intro x hx
    exact h (.register ⟨x, hx⟩)
  have counter : t.counter = s.counter := h .counter
  have index : t.index = s.index := h .index
  have stack : t.stack = s.stack := h .stack
  have delay : t.delay = s.delay := h .delay
  have sound : t.sound = s.sound := h .sound
  have key : t.key = s.key := h .key
  have screen : d'.screen = d.screen := h .screen
  have keypad : d'.keypad = d.keypad := h .keypad
  constructor
  · cases t; cases s; simp_all
  · cases d'; cases d; simp_all

/-! ## Replacing one part -/

theorem same_withCounter {a : Int} (h : p ≠ .counter) : p.Same s d { s with counter := a } d := by
  cases p with
  | counter => exact absurd rfl h
  | _ => rfl

theorem same_withIndex {a : Int} (h : p ≠ .index) : p.Same s d { s with index := a } d := by
  cases p with
  | index => exact absurd rfl h
  | _ => rfl

theorem same_withStack {k : CallStack} (h : p ≠ .stack) : p.Same s d { s with stack := k } d := by
  cases p with
  | stack => exact absurd rfl h
  | _ => rfl

theorem same_withDelay {n : Int} (h : p ≠ .delay) : p.Same s d { s with delay := n } d := by
  cases p with
  | delay => exact absurd rfl h
  | _ => rfl

theorem same_withSound {n : Int} (h : p ≠ .sound) : p.Same s d { s with sound := n } d := by
  cases p with
  | sound => exact absurd rfl h
  | _ => rfl

theorem same_withKey {k : RandomKey} (h : p ≠ .key) : p.Same s d { s with key := k } d := by
  cases p with
  | key => exact absurd rfl h
  | _ => rfl

theorem same_withScreen {q : Screen} (h : p ≠ .screen) :
    p.Same s d s { d with screen := q } := by
  cases p with
  | screen => exact absurd rfl h
  | _ => rfl

theorem same_setRegister {x : Register} {b : UInt8} (h : p ≠ .register x) :
    p.Same s d (s.setRegister x b) d := by
  cases p with
  | register y =>
    have other : x ≠ y := fun same => h (by rw [same])
    show (s.setRegister x b).register y = s.register y
    rw [State.register_setRegister, if_neg other]
  | _ => rfl

end Part

/-- The bytes that a block does not cover are not changed by writing it. -/
theorem Memory.read_writeBlock (bs : List UInt8) (m : Memory) (a : Int) {a' : Int}
    (outside : ∀ k : Nat, k < bs.length → (a + k) % 4096 ≠ a' % 4096) :
    (m.writeBlock a bs).read a' = m.read a' := by
  induction bs generalizing m a with
  | nil => rfl
  | cons b bs ih =>
    rw [Memory.writeBlock, ih (m.write a b) (a + 1), Memory.read_write]
    · have first : (a + (0 : Nat)) % 4096 ≠ a' % 4096 := outside 0 (Nat.succ_pos _)
      rw [if_neg (by omega)]
    · intro k hk
      have later : (a + (k + 1 : Nat)) % 4096 ≠ a' % 4096 := outside (k + 1) (Nat.succ_lt_succ hk)
      omega

/-! ## The footprint of an instruction -/

/-- The bytes of memory that a block of the given length covers. -/
def Part.cells (a : Int) (length : Nat) : List Part :=
  (List.range length).map fun k : Nat => .cell (Address.ofInt (a + k))

/-- Whether an operation on two registers sets the flag. -/
def AluOp.setsFlag : AluOp → Bool
  | .copy | .or | .and | .xor => false
  | .add | .subtract | .shiftRight | .subtractFrom | .shiftLeft => true

theorem AluOp.nibble_range (op : AluOp) : op.nibble ≤ 7 ∨ op.nibble = 0xE := by
  cases op <;> decide

theorem AluOp.nibble_of_setsFlag {op : AluOp} (h : op.setsFlag = true) :
    4 ≤ op.nibble ∧ op.nibble ≤ 7 ∨ op.nibble = 0xE := by
  revert h
  cases op <;> decide

/-- The parts that an instruction may change. -/
def Instruction.footprint (s : State) (keys : Keypad) : Instruction → List Part
  | .machineCall _ => []
  | .clear => [.screen]
  | .ret => [.stack, .counter]
  | .jump _ => [.counter]
  | .call _ => [.stack, .counter]
  | .skip _ => [.counter]
  | .set x _ => [.register x]
  | .addByte x _ => [.register x]
  | .combine op x _ =>
    if op.setsFlag then [.register x, .register flagRegister] else [.register x]
  | .setIndex _ => [.index]
  | .jumpOffset _ => [.counter]
  | .random x _ => [.register x, .key]
  | .draw _ _ _ => [.register flagRegister, .screen]
  | .getDelay x => [.register x]
  | .awaitKey x => if keys.firstPressed.isSome then [.register x] else [.counter]
  | .setDelay _ => [.delay]
  | .setSound _ => [.sound]
  | .addIndex _ => [.index, .register flagRegister]
  | .pointGlyph _ => [.index]
  | .storeDigits _ => Part.cells s.index 3
  | .saveRegisters x => Part.cells s.index (x.val + 1)
  | .loadRegisters x => ((List.finRange 16).filter (· ≤ x)).map .register

namespace State

variable {s t : State} {d d' : Devices} {w : Word} {i : Instruction} {p : Part}

theorem length_firstRegisters (s : State) (x : Register) :
    (s.firstRegisters x).length = x.val + 1 := by
  have := x.isLt
  simp only [firstRegisters, List.length_take, Vector.length_toList]; omega

theorem same_writeBlock {bs : List UInt8} (h : p ∉ Part.cells s.index bs.length) :
    p.Same s d { s with memory := s.memory.writeBlock s.index bs } d := by
  cases p with
  | cell a =>
    apply Memory.read_writeBlock
    intro k hk meets
    apply h
    refine List.mem_map.mpr ⟨k, List.mem_range.mpr hk, ?_⟩
    have place := Address.val_ofInt (s.index + k)
    have bound := a.isLt
    rw [Part.cell.injEq, Fin.ext_iff]
    omega
  | _ => rfl

theorem same_combine {op : AluOp} {x y : Register}
    (h : p ∉ (Instruction.combine op x y).footprint s d.keypad) :
    p.Same s d (s.combine op x y) d := by
  unfold State.combine
  cases op <;>
    simp only [Instruction.footprint, AluOp.setsFlag, if_true, Bool.false_eq_true, if_false,
      List.mem_cons, List.not_mem_nil, or_false, not_or] at h
  -- without a flag there is one change, with a flag there are two
  case copy | or | and | xor => exact Part.same_setRegister h
  all_goals exact (Part.same_setRegister h.1).trans (Part.same_setRegister h.2)

theorem same_addToIndex {x : Register} (h : p ≠ .index ∧ p ≠ .register flagRegister) :
    p.Same s d (s.addToIndex x) d := by
  unfold State.addToIndex
  dsimp only
  split
  · exact (Part.same_withIndex h.1).trans (Part.same_setRegister h.2)
  · exact (Part.same_withIndex h.1).trans (Part.same_setRegister h.2)

theorem same_awaitKey {x : Register}
    (h : p ∉ (Instruction.awaitKey x).footprint s d.keypad) :
    p.Same s d (s.awaitKey d.keypad x) d := by
  unfold State.awaitKey
  simp only [Instruction.footprint] at h
  cases first : d.keypad.firstPressed with
  | some key =>
    rw [first] at h
    exact Part.same_setRegister (by simpa using h)
  | none =>
    rw [first] at h
    exact Part.same_withCounter (by simpa using h)

theorem same_loadRegisters {x : Register}
    (h : p ∉ (Instruction.loadRegisters x).footprint s d.keypad) :
    p.Same s d (s.loadRegisters x) d := by
  cases p with
  | register k =>
    have above : ¬ k ≤ x := by simpa [Instruction.footprint] using h
    simp [Part.Same, State.loadRegisters, State.register, above]
  | _ => rw [loadRegisters_eq]; rfl

/-- **An instruction changes nothing outside its footprint.** -/
theorem perform_same (h : s.perform d w i = (.ok t, d'))
    (outside : p ∉ i.footprint s d.keypad) : p.Same s d t d' := by
  cases i with
  | machineCall a => cases h
  | clear => cases h; exact Part.same_withScreen (List.ne_of_not_mem_cons outside)
  | ret =>
    obtain ⟨stack, counter⟩ : p ≠ .stack ∧ p ≠ .counter := by
      simpa [Instruction.footprint] using outside
    rw [perform_ret] at h
    split at h
    · rename_i a k pop
      cases h
      exact Part.Same.trans (t := { s with stack := k }) (Part.same_withStack stack)
        (Part.same_withCounter counter)
    · cases h
  | jump a => cases h; exact Part.same_withCounter (List.ne_of_not_mem_cons outside)
  | call a =>
    obtain ⟨stack, counter⟩ : p ≠ .stack ∧ p ≠ .counter := by
      simpa [Instruction.footprint] using outside
    rw [perform_call] at h
    split at h
    · rename_i k push
      cases h
      exact Part.Same.trans (t := { s with stack := k }) (Part.same_withStack stack)
        (Part.same_withCounter counter)
    · cases h
  | skip c =>
    rw [perform_skip] at h
    cases h
    rw [skipIf_eq]
    exact Part.same_withCounter (List.ne_of_not_mem_cons outside)
  | set x b => cases h; exact Part.same_setRegister (List.ne_of_not_mem_cons outside)
  | addByte x b =>
    cases h; exact Part.same_setRegister (List.ne_of_not_mem_cons outside)
  | combine op x y => cases h; exact same_combine outside
  | setIndex a => cases h; exact Part.same_withIndex (List.ne_of_not_mem_cons outside)
  | jumpOffset a =>
    cases h; exact Part.same_withCounter (List.ne_of_not_mem_cons outside)
  | random x mask =>
    cases h
    obtain ⟨register, key⟩ : p ≠ .register x ∧ p ≠ .key := by
      simpa [Instruction.footprint] using outside
    exact (Part.same_setRegister register).trans (Part.same_withKey key)
  | draw x y rows =>
    cases h
    obtain ⟨flag, screen⟩ : p ≠ .register flagRegister ∧ p ≠ .screen := by
      simpa [Instruction.footprint] using outside
    exact (Part.same_setRegister flag).trans (Part.same_withScreen screen)
  | getDelay x =>
    cases h; exact Part.same_setRegister (List.ne_of_not_mem_cons outside)
  | awaitKey x => cases h; exact same_awaitKey outside
  | setDelay x => cases h; exact Part.same_withDelay (List.ne_of_not_mem_cons outside)
  | setSound x => cases h; exact Part.same_withSound (List.ne_of_not_mem_cons outside)
  | addIndex x =>
    cases h; exact same_addToIndex (by simpa [Instruction.footprint] using outside)
  | pointGlyph x =>
    cases h; exact Part.same_withIndex (List.ne_of_not_mem_cons outside)
  | storeDigits x => cases h; exact same_writeBlock outside
  | saveRegisters x =>
    cases h
    exact same_writeBlock (by rw [length_firstRegisters]; exact outside)
  | loadRegisters x => cases h; exact same_loadRegisters outside

end State

/-! ## What a word writes -/

theorem Keypad.isSome_firstPressed_iff (keys : Keypad) :
    keys.firstPressed.isSome = true ↔ ∃ k, keys.held k = true := by
  rw [firstPressed_eq_head?]
  constructor
  · intro some
    obtain ⟨k, first⟩ := Option.isSome_iff_exists.mp some
    exact ⟨k, (keys.mem_pressed_iff k).mp (List.mem_of_mem_head? first)⟩
  · rintro ⟨k, held⟩
    have member := (keys.mem_pressed_iff k).mpr held
    cases hp : keys.pressed with
    | nil => rw [hp] at member; cases member
    | cons first rest => rfl

namespace Word

/-- The numbers of the words that skip: `3XNN`, `4XNN`, `5XY0`, `9XY0`, `EX9E` and `EXA1`. -/
def Skips (r : Nat) : Prop :=
  r / 0x1000 = 3 ∨ r / 0x1000 = 4 ∨ (r / 0x1000 = 5 ∨ r / 0x1000 = 9) ∧ r % 0x10 = 0 ∨
    r / 0x1000 = 0xE ∧ (r % 0x100 = 0x9E ∨ r % 0x100 = 0xA1)

/-- What the word of a number may change in a state, with the keys that are held.  The keypad itself is
    not among it. -/
inductive Writes (s : State) (keys : Keypad) (r : Nat) : Part → Prop
  /-- `FX33`: three bytes from the index on. -/
  | digits (k : Nat) (word : Misc 0x33 r) (near : k < 3) :
      Writes s keys r (.cell (Address.ofInt (s.index + k)))
  /-- `FX55`: a byte for every register up to `X`, from the index on. -/
  | saved (k : Nat) (word : Misc 0x55 r) (near : k ≤ r / 0x100 % 0x10) :
      Writes s keys r (.cell (Address.ofInt (s.index + k)))
  /-- `2NNN` and `00EE`. -/
  | stack (word : r / 0x1000 = 2 ∨ r = 0x00EE) : Writes s keys r .stack
  /-- `CXNN`. -/
  | key (word : r / 0x1000 = 0xC) : Writes s keys r .key
  /-- `FX15`. -/
  | delay (word : Misc 0x15 r) : Writes s keys r .delay
  /-- `FX18`. -/
  | sound (word : Misc 0x18 r) : Writes s keys r .sound
  /-- `ANNN`, `FX1E` and `FX29`. -/
  | index (word : r / 0x1000 = 0xA ∨ Misc 0x1E r ∨ Misc 0x29 r) : Writes s keys r .index
  /-- `00E0` and `DXYN`. -/
  | screen (word : r = 0x00E0 ∨ r / 0x1000 = 0xD) : Writes s keys r .screen
  /-- `00EE`, `1NNN`, `2NNN`, `BNNN` and the skips. -/
  | counter
      (word : r = 0x00EE ∨ r / 0x1000 = 1 ∨ r / 0x1000 = 2 ∨ r / 0x1000 = 0xB ∨ Skips r) :
      Writes s keys r .counter
  /-- `FX0A` as long as no key is held. -/
  | waiting (word : Misc 0x0A r) (free : ∀ k, keys.held k = false) : Writes s keys r .counter
  /-- `6XNN`, `7XNN`, `8XYN`, `CXNN` and `FX07`: the register `X`. -/
  | result (x : Register) (field : x.val = r / 0x100 % 0x10)
      (word : r / 0x1000 = 6 ∨ r / 0x1000 = 7 ∨
        r / 0x1000 = 8 ∧ (r % 0x10 ≤ 7 ∨ r % 0x10 = 0xE) ∨ r / 0x1000 = 0xC ∨ Misc 0x07 r) :
      Writes s keys r (.register x)
  /-- `FX0A` when a key is held: the register `X`. -/
  | awaited (x : Register) (field : x.val = r / 0x100 % 0x10) (word : Misc 0x0A r)
      (held : ∃ k, keys.held k = true) : Writes s keys r (.register x)
  /-- `8XY4` to `8XY7`, `8XYE`, `DXYN` and `FX1E`: the register `F`. -/
  | flag
      (word : r / 0x1000 = 8 ∧ (4 ≤ r % 0x10 ∧ r % 0x10 ≤ 7 ∨ r % 0x10 = 0xE) ∨
        r / 0x1000 = 0xD ∨ Misc 0x1E r) : Writes s keys r (.register flagRegister)
  /-- `FX65`: every register up to `X`. -/
  | loaded (x : Register) (word : Misc 0x65 r) (upTo : x.val ≤ r / 0x100 % 0x10) :
      Writes s keys r (.register x)

variable {w : Word} {s : State} {keys : Keypad} {p : Part}

theorem skips_number (c : Condition) : Skips c.number := by
  unfold Skips
  cases c with
  | equalsByte x b | differsByte x b =>
    have := x.isLt; have := b.toNat_lt
    simp only [Condition.number]; omega
  | equal x y | differ x y =>
    have := x.isLt; have := y.isLt
    simp only [Condition.number]; omega
  | keyHeld x | keyFree x =>
    have := x.isLt
    simp only [Condition.number]; omega

/-- The number of a word of family `F`, taken apart. -/
theorem misc_of_number (nn : Nat) {r : Nat} (x : Register) (number : r = 0xF000 + nn + 0x100 * x.val)
    (byte : nn < 0x100) : Misc nn r ∧ x.val = r / 0x100 % 0x10 := by
  have := x.isLt
  unfold Misc
  omega

/-- The footprint of an instruction is what its word writes. -/
theorem writes_of_mem_footprint {i : Instruction} (known : Instruction.decode? w = some i)
    (member : p ∈ i.footprint s keys) : Writes s keys w.toNat p := by
  have number := Instruction.toNat_of_decode? known
  cases i with
  | machineCall a => cases member
  | clear =>
    cases List.mem_singleton.mp member
    exact .screen (Or.inl number)
  | ret =>
    rcases List.mem_cons.mp member with rfl | member
    · exact .stack (Or.inr number)
    · cases List.mem_singleton.mp member
      exact .counter (Or.inl number)
  | jump a =>
    cases List.mem_singleton.mp member
    have := a.isLt
    simp only [Instruction.number] at number
    exact .counter (by omega)
  | call a =>
    have := a.isLt
    simp only [Instruction.number] at number
    rcases List.mem_cons.mp member with rfl | member
    · exact .stack (by omega)
    · cases List.mem_singleton.mp member
      exact .counter (by omega)
  | skip c =>
    cases List.mem_singleton.mp member
    have skips : Skips w.toNat := number ▸ skips_number c
    exact .counter (Or.inr (Or.inr (Or.inr (Or.inr skips))))
  | set x b | addByte x b =>
    cases List.mem_singleton.mp member
    have := x.isLt; have := b.toNat_lt
    simp only [Instruction.number] at number
    exact .result x (by omega) (by omega)
  | combine op x y =>
    have := x.isLt; have := y.isLt
    have last := op.nibble_range
    simp only [Instruction.number] at number
    have result : Writes s keys w.toNat (.register x) := .result x (by omega) (by omega)
    cases flagged : op.setsFlag with
    | false =>
      simp only [Instruction.footprint, flagged] at member
      cases List.mem_singleton.mp member
      exact result
    | true =>
      simp only [Instruction.footprint, flagged] at member
      rcases List.mem_cons.mp member with rfl | member
      · exact result
      · cases List.mem_singleton.mp member
        have last := AluOp.nibble_of_setsFlag flagged
        exact .flag (by omega)
  | setIndex a =>
    cases List.mem_singleton.mp member
    have := a.isLt
    simp only [Instruction.number] at number
    exact .index (by omega)
  | jumpOffset a =>
    cases List.mem_singleton.mp member
    have := a.isLt
    simp only [Instruction.number] at number
    exact .counter (by omega)
  | random x b =>
    have := x.isLt; have := b.toNat_lt
    simp only [Instruction.number] at number
    rcases List.mem_cons.mp member with rfl | member
    · exact .result x (by omega) (by omega)
    · cases List.mem_singleton.mp member
      exact .key (by omega)
  | draw x y n =>
    have := x.isLt; have := y.isLt; have := n.isLt
    simp only [Instruction.number] at number
    rcases List.mem_cons.mp member with rfl | member
    · exact .flag (by omega)
    · cases List.mem_singleton.mp member
      exact .screen (by omega)
  | getDelay x =>
    cases List.mem_singleton.mp member
    obtain ⟨word, field⟩ := misc_of_number 0x07 x number (by decide)
    exact .result x field (by simp [word])
  | awaitKey x =>
    obtain ⟨word, field⟩ := misc_of_number 0x0A x number (by decide)
    by_cases held : ∃ k, keys.held k = true
    · have some := keys.isSome_firstPressed_iff.mpr held
      simp only [Instruction.footprint, some] at member
      cases List.mem_singleton.mp member
      exact .awaited x field word held
    · have none := mt keys.isSome_firstPressed_iff.mp held
      simp only [Instruction.footprint, none] at member
      cases List.mem_singleton.mp member
      exact .waiting word (by simpa using held)
  | setDelay x =>
    cases List.mem_singleton.mp member
    exact .delay (misc_of_number 0x15 x number (by decide)).1
  | setSound x =>
    cases List.mem_singleton.mp member
    exact .sound (misc_of_number 0x18 x number (by decide)).1
  | addIndex x =>
    have word := (misc_of_number 0x1E x number (by decide)).1
    rcases List.mem_cons.mp member with rfl | member
    · exact .index (Or.inr (Or.inl word))
    · cases List.mem_singleton.mp member
      exact .flag (Or.inr (Or.inr word))
  | pointGlyph x =>
    cases List.mem_singleton.mp member
    exact .index (Or.inr (Or.inr (misc_of_number 0x29 x number (by decide)).1))
  | storeDigits x =>
    obtain ⟨k, below, rfl⟩ := List.mem_map.mp member
    exact .digits k (misc_of_number 0x33 x number (by decide)).1 (List.mem_range.mp below)
  | saveRegisters x =>
    obtain ⟨word, field⟩ := misc_of_number 0x55 x number (by decide)
    obtain ⟨k, below, rfl⟩ := List.mem_map.mp member
    have := List.mem_range.mp below
    exact .saved k word (by omega)
  | loadRegisters x =>
    obtain ⟨word, field⟩ := misc_of_number 0x65 x number (by decide)
    obtain ⟨k, below, rfl⟩ := List.mem_map.mp member
    have upTo : k ≤ x := by simpa using (List.mem_filter.mp below).2
    exact .loaded k word (field ▸ Fin.le_def.mp upTo)

end Word

namespace State

/-- An instruction leaves alone what its word does not write. -/
theorem perform_same_of_not_writes {s t : State} {d d' : Devices} {w : Word} {i : Instruction}
    {p : Part} (known : Instruction.decode? w = some i) (h : s.perform d w i = (.ok t, d'))
    (unwritten : ¬ Word.Writes s d.keypad w.toNat p) : p.Same s d t d' :=
  perform_same h (mt (Word.writes_of_mem_footprint known) unwritten)

/-- **The footprint of every word.**  A word that yields a state leaves every part alone that it does not
    write; and a state with its devices has no other parts. -/
theorem execute_footprint {s t : State} {d d' : Devices} {w : Word}
    (h : s.execute d w = (.ok t, d')) :
    (∀ p : Part, ¬ Word.Writes s d.keypad w.toNat p → p.Same s d t d') ∧
      ((∀ p : Part, p.Same s d t d') → t = s ∧ d' = d) := by
  refine ⟨fun p unwritten => ?_, Part.eq_of_same⟩
  obtain ⟨i, known, run⟩ := execute_eq_ok h
  exact perform_same_of_not_writes known run unwritten

/-- Four registers that are stored across the end of memory: the byte behind them stays, and so do all
    registers. -/
theorem execute_footprint_across_the_end :
    let s : State := { fresh RandomKey.zero with index := 0xFFE }
    let t : State := { s with memory := s.memory.writeBlock 0xFFE (s.firstRegisters 3) }
    s.execute Devices.idle 0xF355 = (.ok t, Devices.idle) ∧
      (Part.cell 2).Same s Devices.idle t Devices.idle ∧
      ∀ x : Register, (Part.register x).Same s Devices.idle t Devices.idle := by
  intro s t
  have run : s.execute Devices.idle 0xF355 = (.ok t, Devices.idle) := rfl
  have unwritten := (execute_footprint run).1
  refine ⟨run, unwritten _ ?_, fun x => unwritten _ ?_⟩
  · generalize place : Part.cell 2 = p
    intro writes
    cases writes with
    | digits k word near => exact absurd word (by decide)
    | saved k word near =>
      have upTo : k ≤ 3 := near
      have spot : (2 : Int) = (0xFFE + k) % 4096 := by
        rw [← Address.val_ofInt, ← Part.cell.inj place]
        rfl
      omega
    | _ => cases place
  · generalize place : Part.register x = p
    intro writes
    cases writes with
    | result x field word => exact absurd word (by decide)
    | awaited x field word => exact absurd word (by decide)
    | flag word => exact absurd word (by decide)
    | loaded x word => exact absurd word (by decide)
    | _ => cases place

end State

end Chip8
