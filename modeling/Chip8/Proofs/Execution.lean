/-
  What carrying out a word can do.

  Every proof about machines has to know three things of an instruction: when it faults, what it
  leaves alone, and what it does to the call stack.  They are settled HERE, once, by going through the
  instructions, and cited from here on.

  * Faults.  Whether an instruction faults is read off the instruction and the depth of the call stack
    (`Instruction.fault?`), and whether a word does off the word and that depth (`Word.fault?`).
    Registers, memory, timers and devices have no say in it.  An instruction that faults has not
    touched the devices.
  * Frames.  The helpers that instructions are made of change the parts of the state that their
    equations name.
  * The call stack.  Only a call pushes, only a return pops, everything else leaves it alone.

  From instructions they are passed on to words, to cycles and to machines.
-/
import Chip8.Machine
import Chip8.Proofs.CallStack

namespace Chip8

/-! ## Conditions -/

/-- Whether a condition is true, a key being named by the low nibble of its register. -/
def Condition.truth (s : State) (keys : Keypad) : Condition → Bool
  | .equalsByte x b => s.register x == b
  | .differsByte x b => s.register x != b
  | .equal x y => s.register x == s.register y
  | .differ x y => s.register x != s.register y
  | .keyHeld x => keys.held (Keypad.named (s.register x))
  | .keyFree x => !keys.held (Keypad.named (s.register x))

/-- The keypad never refuses the key of a condition. -/
theorem Condition.holds_eq (s : State) (keys : Keypad) (c : Condition) :
    c.holds s keys = .ok (c.truth s keys) := by
  cases c with
  | equalsByte x b => rfl
  | differsByte x b => rfl
  | equal x y => rfl
  | differ x y => rfl
  | keyHeld x => exact keys.isPressed_low (s.register x)
  | keyFree x =>
    show (keys.isPressed (s.register x &&& 0xF).toNat).map not = _
    rw [keys.isPressed_low (s.register x)]
    rfl

/-! ## Which instructions fault -/

/-- The fault of an instruction on a call stack, if it has one. -/
def Instruction.fault? (k : CallStack) : Instruction → Option FaultKind
  | .machineCall _ => some .machineCall
  | .ret => if k.depth = 0 then some .stackUnderflow else none
  | .call _ => if k.depth = 16 then some .stackOverflow else none
  | _ => none

theorem Instruction.fault?_ret (k : CallStack) :
    Instruction.ret.fault? k = if k.depth = 0 then some .stackUnderflow else none := rfl

theorem Instruction.fault?_call (k : CallStack) (a : Address) :
    (Instruction.call a).fault? k = if k.depth = 16 then some .stackOverflow else none := rfl

/-- The fault of a word on a call stack, if it has one. -/
def Word.fault? (w : Word) (k : CallStack) : Option FaultKind :=
  match Instruction.decode? w with
  | none => some .unknownOpcode
  | some i => i.fault? k

theorem Word.fault?_of_decode {w : Word} {i : Instruction}
    (known : Instruction.decode? w = some i) (k : CallStack) : w.fault? k = i.fault? k := by
  simp only [Word.fault?, known]

namespace State

variable {s t : State} {d d' : Devices} {w : Word} {i : Instruction} {kind : FaultKind}

theorem perform_ret (s : State) (d : Devices) (w : Word) :
    s.perform d w .ret =
      match s.stack.pop with
      | .ok (a, stack) => (.ok { s with stack, counter := a.toNat }, d)
      | .error kind => (.error (w.fault kind), d) := rfl

theorem perform_call (s : State) (d : Devices) (w : Word) (a : Address) :
    s.perform d w (.call a) =
      match s.stack.push s.counter with
      | .ok stack => (.ok { s with stack, counter := a.val }, d)
      | .error kind => (.error (w.fault kind), d) := rfl

theorem perform_skip (s : State) (d : Devices) (w : Word) (c : Condition) :
    s.perform d w (.skip c) = (.ok (s.skipIf (c.truth s d.keypad)), d) := by
  simp only [perform, Condition.holds_eq]

/-- An instruction with a fault fails with it, and the devices are as they were. -/
theorem perform_of_fault (h : i.fault? s.stack = some kind) :
    s.perform d w i = (.error (w.fault kind), d) := by
  cases i with
  | machineCall a => cases h; rfl
  | ret =>
    rw [Instruction.fault?_ret] at h
    by_cases empty : s.stack.depth = 0
    · rw [if_pos empty] at h
      cases h
      rw [perform_ret, CallStack.pop_eq_error_iff.mpr ⟨empty, rfl⟩]
    · rw [if_neg empty] at h
      cases h
  | call a =>
    rw [Instruction.fault?_call] at h
    by_cases full : s.stack.depth = 16
    · rw [if_pos full] at h
      cases h
      rw [perform_call, CallStack.push_eq_error_iff.mpr ⟨full, rfl⟩]
    · rw [if_neg full] at h
      cases h
  | _ => cases h

/-- An instruction without a fault yields a state. -/
theorem perform_of_no_fault (h : i.fault? s.stack = none) :
    ∃ t d', s.perform d w i = (.ok t, d') := by
  -- besides the instruction that is never executed, two depend on the stack and one on the keypad
  cases i with
  | machineCall a => cases h
  | ret =>
    rw [perform_ret]
    cases hp : s.stack.pop with
    | ok r => exact ⟨_, _, rfl⟩
    | error kind =>
      obtain ⟨empty, -⟩ := CallStack.pop_eq_error_iff.mp hp
      rw [Instruction.fault?_ret, if_pos empty] at h
      cases h
  | call a =>
    rw [perform_call]
    cases hp : s.stack.push s.counter with
    | ok k => exact ⟨_, _, rfl⟩
    | error kind =>
      obtain ⟨full, -⟩ := CallStack.push_eq_error_iff.mp hp
      rw [Instruction.fault?_call, if_pos full] at h
      cases h
  | skip c =>
    rw [perform_skip]
    exact ⟨_, _, rfl⟩
  | _ => exact ⟨_, _, rfl⟩

/-- An instruction with a fault needs no numbers in range. -/
theorem inRange_of_fault (h : i.fault? s.stack = some kind) (u : State) : u.inRange i = true := by
  cases i with
  | machineCall a => rfl
  | ret => rfl
  | call a => rfl
  | _ => cases h

/-- An index that is an address and a delay that is a byte are in range for every instruction. -/
theorem inRange_of_bounds (index : 0 ≤ s.index ∧ s.index ≤ 0xFFF)
    (delay : 0 ≤ s.delay ∧ s.delay ≤ 255) (i : Instruction) : s.inRange i = true := by
  have hi : Signed.fits32 s.index = true := by simp only [Signed.fits32, decide_eq_true_eq]; omega
  have hd : Signed.fits32 s.delay = true := by simp only [Signed.fits32, decide_eq_true_eq]; omega
  cases i with
  | getDelay x => exact hd
  | draw x y n => exact hi
  | storeDigits x => exact hi
  | saveRegisters x => exact hi
  | loadRegisters x => exact hi
  | _ => rfl

/-! ## Which words fault -/

theorem execute_of_perform (known : Instruction.decode? w = some i) (range : s.inRange i = true) :
    s.execute d w = s.perform d w i := by
  simp only [execute, known]
  exact if_pos range

theorem execute_of_fault (h : w.fault? s.stack = some kind) :
    s.execute d w = (.error (w.fault kind), d) := by
  cases known : Instruction.decode? w with
  | none =>
    simp only [Word.fault?, known] at h
    cases h
    simp only [execute, known]
  | some i =>
    rw [Word.fault?_of_decode known] at h
    rw [execute_of_perform known (inRange_of_fault h s), perform_of_fault h]

/-- A word without a fault yields a state, unless a number that it needs is out of range. -/
theorem execute_of_no_fault (h : w.fault? s.stack = none) :
    (∃ t d', s.execute d w = (.ok t, d')) ∨
      s.execute d w = (.error .outOfRange, d) ∧ ∃ i, s.inRange i = false := by
  cases known : Instruction.decode? w with
  | none =>
    simp only [Word.fault?, known] at h
    cases h
  | some i =>
    rw [Word.fault?_of_decode known] at h
    cases range : s.inRange i with
    | true =>
      rw [execute_of_perform known range]
      exact Or.inl (perform_of_no_fault h)
    | false =>
      refine Or.inr ⟨?_, i, range⟩
      simp only [execute, known, range]
      rfl

/-- With index and delay within bounds every word without a fault yields a state. -/
theorem execute_ok_of_bounds (index : 0 ≤ s.index ∧ s.index ≤ 0xFFF)
    (delay : 0 ≤ s.delay ∧ s.delay ≤ 255) (h : w.fault? s.stack = none) :
    ∃ t d', s.execute d w = (.ok t, d') := by
  rcases execute_of_no_fault (d := d) h with done | ⟨-, i, range⟩
  · exact done
  · rw [inRange_of_bounds index delay i] at range
    cases range

/-- A word that yields a state is an instruction that yields it. -/
theorem execute_eq_ok (h : s.execute d w = (.ok t, d')) :
    ∃ i, Instruction.decode? w = some i ∧ s.perform d w i = (.ok t, d') := by
  unfold execute at h
  split at h
  · cases h
  · rename_i i known
    split at h
    · exact ⟨i, known, h⟩
    · cases h

/-! ## Which cycles fault -/

theorem cycle_eq (s : State) (d : Devices) :
    s.cycle d =
      match s.fetch.2.execute d s.nextWord with
      | (.ok after, d) => (.ok after.tick, d)
      | (.error t, d) => (.error (t.fetchedFrom s.address), d) := rfl

theorem cycle_of_fault (h : s.nextWord.fault? s.stack = some kind) :
    s.cycle d = (.error ((s.nextWord.fault kind).fetchedFrom s.address), d) := by
  have stops : s.fetch.2.execute d s.nextWord = (.error (s.nextWord.fault kind), d) :=
    execute_of_fault h
  rw [cycle_eq, stops]

/-- A cycle that yields a state has executed the next word and ticked. -/
theorem cycle_eq_ok (h : s.cycle d = (.ok t, d')) :
    ∃ u, s.fetch.2.execute d s.nextWord = (.ok u, d') ∧ t = u.tick := by
  rw [cycle_eq] at h
  split at h
  · rename_i u d'' run
    cases h
    exact ⟨u, run, rfl⟩
  · cases h

/-- A cycle that yields no state has found a fault or a number out of range. -/
theorem cycle_eq_error {trap : Trap} (h : s.cycle d = (.error trap, d')) :
    d' = d ∧ (trap = .outOfRange ∨ ∃ kind, s.nextWord.fault? s.stack = some kind ∧
      trap = (s.nextWord.fault kind).fetchedFrom s.address) := by
  cases hf : s.nextWord.fault? s.stack with
  | some kind =>
    rw [cycle_of_fault hf] at h
    cases h
    exact ⟨rfl, Or.inr ⟨kind, rfl, rfl⟩⟩
  | none =>
    -- the fetch has moved the counter, which has no say in faults
    have none : s.nextWord.fault? s.fetch.2.stack = none := hf
    rw [cycle_eq] at h
    rcases execute_of_no_fault (d := d) none with ⟨u, d'', run⟩ | ⟨run, -⟩
    · rw [run] at h
      cases h
    · rw [run] at h
      cases h
      exact ⟨rfl, Or.inl rfl⟩

/-! ## Frames -/

theorem skipIf_eq (s : State) (holds : Bool) :
    s.skipIf holds = { s with counter := (s.skipIf holds).counter } := by
  cases holds <;> rfl

theorem combine_eq (s : State) (op : AluOp) (x y : Register) :
    s.combine op x y = { s with registers := (s.combine op x y).registers } := by
  unfold combine
  dsimp only
  cases (op.apply (s.register x) (s.register y)).2 <;> rfl

theorem addToIndex_eq (s : State) (x : Register) :
    s.addToIndex x =
      { s with index := (s.addToIndex x).index, registers := (s.addToIndex x).registers } := by
  unfold addToIndex
  dsimp only
  split <;> rfl

theorem awaitKey_eq (s : State) (keys : Keypad) (x : Register) :
    s.awaitKey keys x =
      { s with
        counter := (s.awaitKey keys x).counter
        registers := (s.awaitKey keys x).registers } := by
  unfold awaitKey
  cases keys.firstPressed <;> rfl

theorem loadRegisters_eq (s : State) (x : Register) :
    s.loadRegisters x = { s with registers := (s.loadRegisters x).registers } := by
  unfold loadRegisters
  rfl

/-! ## The call stack -/

theorem perform_ret_eq_ok (h : s.perform d w .ret = (.ok t, d')) :
    ∃ a k, s.stack.pop = .ok (a, k) ∧ t = { s with stack := k, counter := a.toNat } := by
  rw [perform_ret] at h
  cases hp : s.stack.pop with
  | ok r =>
    rw [hp] at h
    cases h
    exact ⟨r.1, r.2, rfl, rfl⟩
  | error kind =>
    rw [hp] at h
    cases h

theorem perform_call_eq_ok {a : Address} (h : s.perform d w (.call a) = (.ok t, d')) :
    ∃ k, s.stack.push s.counter = .ok k ∧ t = { s with stack := k, counter := a.val } := by
  rw [perform_call] at h
  cases hp : s.stack.push s.counter with
  | ok k =>
    rw [hp] at h
    cases h
    exact ⟨k, rfl, rfl⟩
  | error kind =>
    rw [hp] at h
    cases h

/-- **Only calls push and only returns pop**: a call stores the counter and goes to its target, a
    return goes to the address that it takes off, and no other instruction changes the stack. -/
theorem perform_stack (h : s.perform d w i = (.ok t, d')) :
    t.stack = s.stack ∨
      (∃ a, i = .call a ∧ s.stack.push s.counter = .ok t.stack ∧ t.counter = a.val) ∨
      (∃ a, i = .ret ∧ s.stack.pop = .ok (a, t.stack) ∧ t.counter = a.toNat) := by
  cases i with
  | machineCall a => cases h
  | ret =>
    obtain ⟨a, k, pop, rfl⟩ := perform_ret_eq_ok h
    exact Or.inr (Or.inr ⟨a, rfl, pop, rfl⟩)
  | call a =>
    obtain ⟨k, push, rfl⟩ := perform_call_eq_ok h
    exact Or.inr (Or.inl ⟨a, rfl, push, rfl⟩)
  | skip c =>
    rw [perform_skip] at h
    cases h
    rw [skipIf_eq]
    exact Or.inl rfl
  | combine op x y =>
    cases h
    rw [combine_eq]
    exact Or.inl rfl
  | awaitKey x =>
    cases h
    rw [awaitKey_eq]
    exact Or.inl rfl
  | addIndex x =>
    cases h
    rw [addToIndex_eq]
    exact Or.inl rfl
  | loadRegisters x =>
    cases h
    rw [loadRegisters_eq]
    exact Or.inl rfl
  | _ => cases h; exact Or.inl rfl

end State

/-! ## Machines -/

namespace Machine

variable {m m' : Machine} {d d' : Devices} {kind : FaultKind}

/-- Whether a cycle faults, and how, is settled by the next word and the call stack. -/
theorem cycle_of_fault (h : m.state.nextWord.fault? m.state.stack = some kind) :
    m.cycle d =
      ⟨m, d, some (.fault
        { kind, opcode := m.state.nextWord.toNat, address := some m.state.address })⟩ := by
  unfold cycle
  rw [State.cycle_of_fault h]
  rfl

/-- A cycle that faults has found the fault of the next word. -/
theorem fault?_of_trap {f : Fault} (h : (m.cycle d).trap = some (.fault f)) :
    ∃ kind, m.state.nextWord.fault? m.state.stack = some kind ∧
      f = { kind, opcode := m.state.nextWord.toNat, address := some m.state.address } := by
  unfold cycle at h
  split at h
  · cases h
  · rename_i trap d' run
    cases h
    obtain ⟨-, stop | ⟨kind, fault, stop⟩⟩ := State.cycle_eq_error run
    · cases stop
    · cases stop
      exact ⟨kind, fault, rfl⟩

/-- A cycle whose instruction yields a state. -/
theorem cycle_of_perform {i : Instruction} {t : State}
    (known : Instruction.decode? m.state.nextWord = some i) (range : m.state.inRange i = true)
    (run : m.state.fetch.2.perform d m.state.nextWord i = (.ok t, d')) :
    m.cycle d = ⟨{ m with state := t.tick, cycles := m.cycles + 1 }, d', none⟩ := by
  have range' : m.state.fetch.2.inRange i = true := by cases i <;> exact range
  simp only [cycle, State.cycle_eq, State.execute_of_perform known range', run]

/-- A cycle that is not stopped commits the state that it yields, and counts. -/
theorem cycle_eq_done (h : m.cycle d = ⟨m', d', none⟩) :
    m.state.cycle d = (.ok m'.state, d') ∧ m'.origin = m.origin ∧ m'.cycles = m.cycles + 1 := by
  unfold cycle at h
  split at h
  · rename_i u d'' run
    cases h
    exact ⟨run, rfl, rfl⟩
  · cases h

/-- A word that is not stopped commits the state that it yields. -/
theorem execute_eq_done {word : Int} (h : m.execute d word = ⟨m', d', none⟩) :
    m.state.execute d (Word.ofInt word) = (.ok m'.state, d') ∧ m'.origin = m.origin := by
  unfold execute at h
  split at h
  · rename_i u d'' run
    cases h
    exact ⟨run, rfl⟩
  · cases h

/-- A cycle that is stopped leaves the machine alone. -/
theorem cycle_eq_stopped {trap : Trap} (h : m.cycle d = ⟨m', d', some trap⟩) : m' = m := by
  unfold cycle at h
  split at h
  · cases h
  · cases h
    rfl

/-- A word that is stopped leaves the machine alone. -/
theorem execute_eq_stopped {word : Int} {trap : Trap}
    (h : m.execute d word = ⟨m', d', some trap⟩) : m' = m := by
  unfold execute at h
  split at h
  · cases h
  · cases h
    rfl

/-- Messages have no part in what a cycle does. -/
theorem cycleLogged_eq (m : Machine) (threshold : Log.Level) (d : Devices) :
    m.cycleLogged threshold d = ((m.cycleLogged threshold d).1, m.cycle d) := by
  unfold cycleLogged
  dsimp only
  split <;> rfl

end Machine

end Chip8
