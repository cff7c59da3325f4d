/-
  Waiting for a key.

  The waiting instruction moves the counter back onto itself, so the next cycle fetches the same two bytes
  again, at either end of memory as well: only the counter, reduced to an address, and the timers can tell
  that time has passed.  `State.waited` is the state after so many cycles of it, and waiting longer is
  waiting again (`waited_waited`), which is what the induction over a wait needs (`attempts_of_free`).

  A held key ends the wait.  The key that is stored is the lowest one
  (`Keypad.firstPressed_eq_some_iff`).
-/
import Chip8.Proofs.Footprint
import Chip8.Proofs.HeldKeys
import Chip8.Proofs.History

namespace Chip8

/-! ## The next word -/

theorem Memory.read_congr (m : Memory) {a a' : Int} (same : a % 4096 = a' % 4096) :
    m.read a = m.read a' := by
  simp only [Memory.read, Address.ofInt, same]

namespace State

/-- The word at the counter, whatever the counter is. -/
theorem toNat_nextWord (s : State) :
    s.nextWord.toNat =
      256 * (s.memory.read s.counter).toNat + (s.memory.read (s.counter + 1)).toNat := by
  have high : s.memory.read s.address = s.memory.read s.counter :=
    s.memory.read_congr (by rw [address]; omega)
  have low : s.memory.read (s.address + 1) = s.memory.read (s.counter + 1) :=
    s.memory.read_congr (by rw [address]; omega)
  rw [nextWord, Word.toNat_ofBytes, high, low]

/-! ## One cycle of waiting -/

/-- The state after so many cycles of waiting. -/
def waited (s : State) (n : Nat) : State :=
  if n = 0 then s
  else
    { s with
      counter := s.counter % 4096
      delay := max (s.delay - n) 0
      sound := max (s.sound - n) 0 }

/-- A timer that has counted down counts on. -/
theorem countdown (t : Int) (n k : Nat) : max (max (t - n) 0 - k) 0 = max (t - (n + k : Nat)) 0 := by
  omega

/-- Waiting longer is waiting again. -/
theorem waited_waited (s : State) (n k : Nat) : (s.waited n).waited k = s.waited (n + k) := by
  cases n with
  | zero => rw [Nat.zero_add]; rfl
  | succ n =>
    cases k with
    | zero => rfl
    | succ k =>
      have counter : s.counter % 4096 % 4096 = s.counter % 4096 := Int.emod_emod _ _
      simp only [waited, Nat.succ_ne_zero, Nat.add_eq_zero_iff, and_false, if_false, counter,
        countdown]

theorem address_waited (s : State) (n : Nat) : (s.waited n).address = s.address := by
  cases n with
  | zero => rfl
  | succ n => exact Int.emod_emod _ _

theorem memory_waited (s : State) (n : Nat) : (s.waited n).memory = s.memory := by
  cases n <;> rfl

/-- Waiting comes upon the same word again. -/
theorem nextWord_waited (s : State) (n : Nat) : (s.waited n).nextWord = s.nextWord := by
  rw [nextWord, nextWord, address_waited, memory_waited]

theorem awaitKey_of_free {keys : Keypad} (free : keys.Free) (s : State) (x : Register) :
    s.awaitKey keys x = { s with counter := (s.counter - 2) % 4096 } := by
  rw [awaitKey, Keypad.firstPressed_eq_none_iff.mpr free]

theorem awaitKey_of_lowest {keys : Keypad} {key : Nibble} (lowest : keys.Lowest key) (s : State)
    (x : Register) : s.awaitKey keys x = s.setRegister x (UInt8.ofNat key.val) := by
  rw [awaitKey, Keypad.firstPressed_eq_some_iff.mpr lowest]

end State

namespace Machine

/-- The machine after so many cycles of waiting. -/
def waited (m : Machine) (n : Nat) : Machine :=
  { m with state := m.state.waited n, cycles := m.cycles + n }

theorem waited_waited (m : Machine) (n k : Nat) : (m.waited n).waited k = m.waited (n + k) := by
  simp only [waited, State.waited_waited, Nat.add_assoc]

variable {m : Machine} {d : Devices}

/-- The next word is the waiting instruction with register `x`. -/
def Awaits (m : Machine) (x : Register) : Prop :=
  Instruction.decode? m.state.nextWord = some (.awaitKey x)

theorem awaits_of_bytes {x : Register}
    (word : 256 * (m.state.memory.read m.state.counter).toNat +
      (m.state.memory.read (m.state.counter + 1)).toNat = 0xF00A + 0x100 * x.val) : m.Awaits x :=
  Instruction.decode?_of_misc_number 0x0A (m.state.toNat_nextWord.trans word)

theorem Awaits.waited {x : Register} (awaits : m.Awaits x) (n : Nat) : (m.waited n).Awaits x := by
  show Instruction.decode? (m.state.waited n).nextWord = _
  rw [State.nextWord_waited]
  exact awaits

/-- A cycle of waiting. -/
theorem cycle_of_free {x : Register} (awaits : m.Awaits x) (free : d.keypad.Free) :
    m.cycle d = ⟨m.waited 1, d, none⟩ := by
  have back : ((m.state.counter % 4096 + 2) % 4096 - 2) % 4096 = m.state.counter % 4096 := by omega
  have run : m.state.fetch.2.perform d m.state.nextWord (.awaitKey x) =
      (.ok { m.state with counter := m.state.counter % 4096 }, d) := by
    show (Except.ok (m.state.fetch.2.awaitKey d.keypad x), d) = _
    rw [State.awaitKey_of_free free, ← back]
    rfl
  exact cycle_of_perform awaits rfl run

/-- A cycle that ends the wait. -/
theorem cycle_of_lowest {x : Register} {key : Nibble} (awaits : m.Awaits x)
    (lowest : d.keypad.Lowest key) :
    m.cycle d =
      ⟨{ m with
          state :=
            { m.state.setRegister x (UInt8.ofNat key.val) with
              counter := (m.state.counter + 2) % 4096
              delay := max (m.state.delay - 1) 0
              sound := max (m.state.sound - 1) 0 }
          cycles := m.cycles + 1 }, d, none⟩ := by
  have onward : (m.state.counter % 4096 + 2) % 4096 = (m.state.counter + 2) % 4096 := by omega
  have run : m.state.fetch.2.perform d m.state.nextWord (.awaitKey x) =
      (.ok { m.state.setRegister x (UInt8.ofNat key.val) with
        counter := (m.state.counter + 2) % 4096 }, d) := by
    show (Except.ok (m.state.fetch.2.awaitKey d.keypad x), d) = _
    rw [State.awaitKey_of_lowest lowest, ← onward]
    rfl
  exact cycle_of_perform awaits rfl run

/-- A cycle that ends a wait of any length. -/
theorem cycle_waited_of_lowest {x : Register} {key : Nibble} (awaits : m.Awaits x)
    (lowest : d.keypad.Lowest key) (n : Nat) :
    (m.waited n).cycle d =
      ⟨{ m with
          state :=
            { m.state.setRegister x (UInt8.ofNat key.val) with
              counter := (m.state.counter + 2) % 4096
              delay := max (m.state.delay - (n + 1)) 0
              sound := max (m.state.sound - (n + 1)) 0 }
          cycles := m.cycles + n + 1 }, d, none⟩ := by
  rw [cycle_of_lowest (awaits.waited n) lowest]
  cases n with
  | zero => rfl
  | succ n =>
    have counter : (m.state.counter % 4096 + 2) % 4096 = (m.state.counter + 2) % 4096 :=
      Int.emod_add_emod _ _ _
    have timer : ∀ t : Int, max (max (t - (n + 1 : Nat)) 0 - 1) 0 = max (t - ((n + 1 : Nat) + 1)) 0 :=
      fun t => State.countdown t (n + 1) 1
    rw [← counter, ← timer, ← timer]
    rfl

/-! ## Waiting for any time -/

/-- Every cycle of a wait succeeds and leaves its devices alone. -/
theorem attempts_of_free {x : Register} : ∀ {ds : List Devices} {m : Machine}, m.Awaits x →
    (∀ d ∈ ds, d.keypad.Free) → ∀ (i : Nat) (d : Devices), ds[i]? = some d →
      (m.attempts ds)[i]? = some ⟨m.waited (i + 1), d, none⟩ := by
  intro ds
  induction ds with
  | nil =>
    intro m _ _ i d none
    cases none
  | cons first rest ih =>
    intro m awaits free i d found
    obtain ⟨head, tail⟩ := List.forall_mem_cons.mp free
    rw [attempts, cycle_of_free awaits head]
    cases i with
    | zero =>
      cases found
      rfl
    | succ i =>
      have later := ih (awaits.waited 1) tail i d found
      rw [waited_waited, Nat.add_comm 1] at later
      exact later

/-- What a wait leaves of the machine. -/
theorem after_of_free {x : Register} : ∀ {ds : List Devices} {m : Machine}, m.Awaits x →
    (∀ d ∈ ds, d.keypad.Free) → m.after (ds.map .cycle) = m.waited ds.length := by
  intro ds
  induction ds with
  | nil => intro m _ _; rfl
  | cons first rest ih =>
    intro m awaits free
    obtain ⟨head, tail⟩ := List.forall_mem_cons.mp free
    have step : (Operation.cycle first).apply m = m.waited 1 := by
      show (m.cycle first).machine = m.waited 1
      rw [cycle_of_free awaits head]
    rw [List.map_cons, after, List.foldl_cons, step, List.length_cons, Nat.add_comm,
      ← waited_waited]
    exact ih (awaits.waited 1) tail

/-- **Waiting for a key.**  While the two bytes at the counter, wherever it is, are those of the waiting
    instruction, cycles without a held key succeed as often as they are tried, and nothing comes of them but
    that the counter is reduced to an address, that the timers run down and that they are counted.  When a
    key is held after any number of them, the next cycle stores the lowest one and moves on. -/
theorem await_key (m : Machine) (x : Register)
    (word : 256 * (m.state.memory.read m.state.counter).toNat +
      (m.state.memory.read (m.state.counter + 1)).toNat = 0xF00A + 0x100 * x.val)
    (ds : List Devices) (free : ∀ d ∈ ds, ∀ key, d.keypad.held key = false) :
    let n := ds.length
    let final := m.after (ds.map .cycle)
    (∀ (i : Nat) (d : Devices), ds[i]? = some d →
      ∃ m', (m.attempts ds)[i]? = some ⟨m', d, none⟩) ∧
    final =
      { m with
        state :=
          if n = 0 then m.state
          else
            { m.state with
              counter := m.state.counter % 4096
              delay := max (m.state.delay - n) 0
              sound := max (m.state.sound - n) 0 }
        cycles := m.cycles + n } ∧
    ∀ d : Devices, (∃ key, d.keypad.held key = true) →
      ∃ key, d.keypad.held key = true ∧ (∀ other, d.keypad.held other = true → key ≤ other) ∧
        final.cycle d =
          ⟨{ m with
              state :=
                { m.state.setRegister x (UInt8.ofNat key.val) with
                  counter := (m.state.counter + 2) % 4096
                  delay := max (m.state.delay - (n + 1)) 0
                  sound := max (m.state.sound - (n + 1)) 0 }
              cycles := m.cycles + n + 1 }, d, none⟩ := by
  intro n final
  have awaits : m.Awaits x := awaits_of_bytes word
  have waited : final = m.waited n := after_of_free awaits free
  refine ⟨?_, waited, ?_⟩
  · intro i d found
    exact ⟨m.waited (i + 1), attempts_of_free awaits free i d found⟩
  · intro d held
    obtain ⟨key, first⟩ := Option.isSome_iff_exists.mp (d.keypad.isSome_firstPressed_iff.mpr held)
    have lowest := Keypad.firstPressed_eq_some_iff.mp first
    refine ⟨key, lowest.1, lowest.2, ?_⟩
    rw [waited, cycle_waited_of_lowest awaits lowest]

/-- The last byte of memory and the first one, reached from a counter below zero: three cycles without a
    key, in which the delay timer runs out, and one with two keys. -/
theorem await_key_across_the_end :
    let memory := (Memory.fresh.write 0xFFF 0xF3).write 0x000 0x0A
    let m := ofState
      { State.fresh RandomKey.zero with memory, counter := -1, delay := 2, sound := 9 }
    let keys : Keypad := (Keypad.idle.set 9 true).set 5 true
    256 * (m.state.memory.read (-1)).toNat + (m.state.memory.read 0).toNat = 0xF00A + 0x100 * 3 ∧
      ∃ v, m.after ([Devices.idle, Devices.idle, Devices.idle].map .cycle) = v ∧
        v.state.counter = 0xFFF ∧ v.state.delay = 0 ∧ v.state.sound = 6 ∧ v.cycles = 3 ∧
        ∃ u, v.cycle ⟨Screen.blank, keys⟩ = ⟨u, ⟨Screen.blank, keys⟩, none⟩ ∧
          u.state.register 3 = 5 ∧ u.state.counter = 1 ∧ u.state.sound = 5 ∧ u.cycles = 4 := by
  intro memory
  have bytes : 256 * (memory.read (-1)).toNat + (memory.read 0).toNat = 0xF00A + 0x100 * 3 := by
    simp only [memory, Memory.read_write]
    decide
  -- nothing else is taken from the memory
  clear_value memory
  intro m keys
  have free : ∀ d ∈ [Devices.idle, Devices.idle, Devices.idle], ∀ key, d.keypad.held key = false := by
    intro d member key
    rw [List.eq_of_mem_replicate (n := 3) member]
    exact Keypad.held_idle key
  have held : keys.held 5 = true ∧ ∀ key, keys.held key = true → 5 ≤ key := by decide
  obtain ⟨-, final, next⟩ := await_key m 3 bytes _ free
  obtain ⟨key, down, lowest, stored⟩ := next ⟨Screen.blank, keys⟩ ⟨5, held.1⟩
  have five : key = 5 := le_antisymm (lowest 5 held.1) (held.2 key down)
  subst five
  refine ⟨bytes, _, rfl, ?_, ?_, ?_, ?_, _, stored, ?_, ?_, ?_, ?_⟩
  · rw [final]; rfl
  · rw [final]; rfl
  · rw [final]; rfl
  · rw [final]; rfl
  · exact (State.register_setRegister _ _ _ _).trans (if_pos rfl)
  · rfl
  · rfl
  · rfl

end Machine

end Chip8
