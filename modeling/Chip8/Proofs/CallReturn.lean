/-
  Calls and returns balance.

  A subroutine may do whatever it likes: call others, call itself, overwrite its own code, wait for
  keys.  As long as it never takes more off the call stack than it has put there, the return that
  brings the stack back to where it was goes to the word behind the call, and the stack is the one
  from before the call, slot by slot.

  The invariant is `Inside base home k`: the call stack `k` still holds the stack from before the call
  UNDERNEATH, with the address to come home to on top of that, and is tidy.  Pushes keep it
  (`Inside.push`), and so do pops that stay inside (`Inside.pop`); the pop that leaves restores `base`
  and yields `home` (`Inside.leave`).  Since only calls push and only returns pop, a run of any length
  keeps it up to the cycle that leaves (`inside_run`).
-/
import Chip8.Proofs.Decoding
import Chip8.Proofs.WellFormed

namespace Chip8

/-! ## The stack under a subroutine -/

namespace CallStack

/-- The call stack `k` of a subroutine that was called on the stack `base`, to return to `home`. -/
structure Inside (base : CallStack) (home : UInt16) (k : CallStack) : Prop where
  deeper : base.depth < k.depth
  below : ∀ i : Nat, ∀ hi : i < 16, i < base.depth → k.slots[i] = base.slots[i]
  home : ∀ hi : base.depth < 16, k.slots[base.depth] = home
  tidy : k.Tidy

namespace Inside

variable {base k k' : CallStack} {home : UInt16}

/-- A call goes inside. -/
theorem enter {a : Int} (tidy : base.Tidy) (h : base.push a = .ok k) :
    Inside base (UInt16.ofNat (Address.ofInt a).val) k := by
  obtain ⟨depth, slots⟩ := push_eq_ok h
  refine ⟨by omega, fun i hi below => ?_, fun hi => ?_, tidy.push h⟩
  · rw [slots i hi, if_neg (by omega)]
  · rw [slots base.depth hi, if_pos rfl]

/-- What leaves the slots up to the one for `home` alone stays inside. -/
theorem keep (inside : Inside base home k) (deeper : base.depth < k'.depth) (tidy : k'.Tidy)
    (slots : ∀ i : Nat, ∀ hi : i < 16, i ≤ base.depth → k'.slots[i] = k.slots[i]) :
    Inside base home k' where
  deeper := deeper
  below i hi below := (slots i hi (Nat.le_of_lt below)).trans (inside.below i hi below)
  home hi := (slots base.depth hi (Nat.le_refl _)).trans (inside.home hi)
  tidy := tidy

theorem push {a : Int} (inside : Inside base home k) (h : k.push a = .ok k') :
    Inside base home k' := by
  obtain ⟨depth, slots⟩ := push_eq_ok h
  have deeper := inside.deeper
  refine inside.keep (by omega) (inside.tidy.push h) fun i hi under => ?_
  rw [slots i hi, if_neg (by omega)]

theorem pop {a : UInt16} (inside : Inside base home k) (h : k.pop = .ok (a, k'))
    (deeper : base.depth < k'.depth) : Inside base home k' := by
  obtain ⟨-, -, slots⟩ := pop_eq_ok h
  refine inside.keep deeper (inside.tidy.pop h) fun i hi under => ?_
  rw [slots i hi, if_neg (by omega)]

/-- The pop that reaches the depth from before the call. -/
theorem leave {a : UInt16} (inside : Inside base home k) (tidy : base.Tidy)
    (h : k.pop = .ok (a, k')) (back : k'.depth = base.depth) : a = home ∧ k' = base := by
  obtain ⟨depth, top, slots⟩ := pop_eq_ok h
  have bound := k.depth_le
  constructor
  · have last : base.depth < 16 := by omega
    have top' := top (by omega)
    simp only [back] at top'
    rw [top', inside.home last]
  · refine eq_of_slots back fun i hi => ?_
    rw [slots i hi]
    split
    · exact (tidy.free i hi (by omega)).symm
    · -- a slot that was not touched is either underneath or free
      rcases Nat.lt_or_ge i base.depth with below | above
      · exact inside.below i hi below
      · rw [inside.tidy.free i hi (by omega), tidy.free i hi above]

end Inside

end CallStack

/-! ## Cycles -/

namespace State

variable {s t : State} {d d' : Devices}

/-- What a cycle does to the call stack. -/
theorem cycle_stack (h : s.cycle d = (.ok t, d')) :
    t.stack = s.stack ∨ (∃ a, s.stack.push a = .ok t.stack) ∨
      (∃ a, s.stack.pop = .ok (a, t.stack) ∧ t.counter = a.toNat) := by
  obtain ⟨u, run, rfl⟩ := cycle_eq_ok h
  obtain ⟨i, -, run⟩ := execute_eq_ok run
  rcases perform_stack run with same | ⟨-, -, push, -⟩ | ⟨a, -, pop, counter⟩
  · exact Or.inl same
  · exact Or.inr (Or.inl ⟨_, push⟩)
  · exact Or.inr (Or.inr ⟨a, pop, counter⟩)

/-- A cycle that calls pushes the address of the word behind the call. -/
theorem cycle_call (call : s.nextWord.toNat / 0x1000 = 2) (h : s.cycle d = (.ok t, d')) :
    s.stack.push ((s.counter + 2) % 4096) = .ok t.stack := by
  obtain ⟨u, run, rfl⟩ := cycle_eq_ok h
  obtain ⟨i, decoded, run⟩ := execute_eq_ok run
  rw [Instruction.decode?_of_call call] at decoded
  cases decoded
  obtain ⟨k, push, rfl⟩ := perform_call_eq_ok run
  have behind : (s.address + 2) % 4096 = (s.counter + 2) % 4096 := by
    simp only [address]; omega
  rw [← behind]
  exact push

end State

/-! ## Runs -/

namespace Machine

/-- A run of at least one cycle, none of them stopped, from a machine to another one, with `p` true of
    every machine strictly between.  Each cycle has devices of its own. -/
inductive Run (p : Machine → Prop) : Machine → Machine → Prop
  | last {m m' : Machine} {d d' : Devices} (step : m.cycle d = ⟨m', d', none⟩) : Run p m m'
  | more {m m' m'' : Machine} {d d' : Devices} (step : m.cycle d = ⟨m', d', none⟩)
      (between : p m') (rest : Run p m' m'') : Run p m m''

/-- One cycle inside a subroutine stays inside or leaves it for home. -/
theorem inside_cycle {base : CallStack} {home : UInt16} {m m' : Machine} {d d' : Devices}
    (tidy : base.Tidy) (inside : base.Inside home m.state.stack)
    (step : m.cycle d = ⟨m', d', none⟩) :
    (base.depth < m'.state.stack.depth → base.Inside home m'.state.stack) ∧
      (m'.state.stack.depth = base.depth →
        m'.state.counter = home.toNat ∧ m'.state.stack = base) := by
  have deeper := inside.deeper
  obtain ⟨run, -, -⟩ := cycle_eq_done step
  rcases State.cycle_stack run with same | ⟨a, push⟩ | ⟨a, pop, counter⟩
  · rw [same]
    exact ⟨fun _ => inside, fun back => by omega⟩
  · -- a nested call goes further in
    have inside' := inside.push push
    have deeper' := inside'.deeper
    exact ⟨fun _ => inside', fun back => by omega⟩
  · -- a return is one of a nested call or the one that leaves
    refine ⟨fun deeper => inside.pop pop deeper, fun back => ?_⟩
    obtain ⟨rfl, restored⟩ := inside.leave tidy pop back
    exact ⟨counter, restored⟩

/-- A run that starts inside and comes back to the depth of the call has come home. -/
theorem inside_run {base : CallStack} {home : UInt16} (tidy : base.Tidy) {m m' : Machine}
    (run : Run (fun u => base.depth < u.state.stack.depth) m m')
    (inside : base.Inside home m.state.stack) (back : m'.state.stack.depth = base.depth) :
    m'.state.counter = home.toNat ∧ m'.state.stack = base := by
  induction run with
  | last step => exact (inside_cycle tidy inside step).2 back
  | more step between rest ih => exact ih ((inside_cycle tidy inside step).1 between) back

/-- **Calls and returns balance.**  If a well-formed machine is about to call, and a run leads back to
    the depth that its stack has now without having been there in between, then the run ends behind the
    call with the very stack that there was. -/
theorem balanced_call {m m' : Machine} (wf : m.state.WellFormed)
    (call : m.state.nextWord.toNat / 0x1000 = 2)
    (run : Run (fun u => m.state.stack.depth < u.state.stack.depth) m m')
    (back : m'.state.stack.depth = m.state.stack.depth) :
    m'.state.counter = (m.state.counter + 2) % 4096 ∧ m'.state.stack = m.state.stack := by
  have tidy := wf.stack_tidy
  cases run with
  | last step =>
    -- the call alone is one slot deeper
    have push := State.cycle_call call (cycle_eq_done step).1
    have := (CallStack.push_eq_ok push).1
    omega
  | more step between rest =>
    have push := State.cycle_call call (cycle_eq_done step).1
    obtain ⟨counter, stack⟩ := inside_run tidy rest (CallStack.Inside.enter tidy push) back
    have home := CallStack.toNat_slot ((m.state.counter + 2) % 4096)
    exact ⟨by omega, stack⟩

/-- A call in the last two bytes of memory returns to the first ones. -/
theorem balanced_call_across_the_end :
    let base : CallStack := { slots := (Vector.replicate 16 0).set 0 0x345, depth := 1 }
    let memory := (((Memory.fresh.write 0xFFE 0x22).write 0xFFF 0x00).write 0x200 0x00).write
      0x201 0xEE
    let at' (counter : Int) (stack : CallStack) (cycles : Nat) : Machine :=
      ⟨{ State.fresh RandomKey.zero with memory, counter, stack }, RandomKey.zero, cycles⟩
    let m := at' 0xFFE base 0
    m.state.WellFormed ∧ m.state.nextWord.toNat / 0x1000 = 2 ∧
      ∃ m', Run (fun u => m.state.stack.depth < u.state.stack.depth) m m' ∧
        m'.state.stack.depth = m.state.stack.depth ∧ m'.state.counter = 0 ∧
        m'.state.stack = m.state.stack := by
  intro base memory at' m
  let inner : CallStack :=
    { slots := ((Vector.replicate 16 0).set 0 0x345).set 1 0, depth := 2 }
  have tidy : base.Tidy := CallStack.tidy_empty.push (a := 0x345) rfl
  have fresh := State.wellFormed_fresh RandomKey.zero
  have wf : m.state.WellFormed :=
    { fresh with
      counter_range := by decide
      used_slot := tidy.used
      free_slot := tidy.free }
  have callWord : m.state.nextWord = 0x2200 := by
    simp only [m, at', memory, State.nextWord, State.address, Memory.read_write]
    decide
  have retWord : (at' 0x200 inner 1).state.nextWord = 0x00EE := by
    simp only [at', memory, State.nextWord, State.address, Memory.read_write]
    decide
  have call : m.cycle Devices.idle = ⟨at' 0x200 inner 1, Devices.idle, none⟩ :=
    cycle_of_perform (i := .call 0x200) (t := (at' 0x200 inner 1).state)
      (by rw [callWord]; decide) rfl rfl
  have ret : (at' 0x200 inner 1).cycle Devices.idle = ⟨at' 0 base 2, Devices.idle, none⟩ :=
    cycle_of_perform (i := .ret) (t := (at' 0 base 2).state) (by rw [retWord]; decide) rfl rfl
  have run : Run (fun u => m.state.stack.depth < u.state.stack.depth) m (at' 0 base 2) :=
    .more call (by decide) (.last ret)
  obtain ⟨counter, stack⟩ := balanced_call wf (by rw [callWord]; decide) run rfl
  exact ⟨wf, by rw [callWord]; decide, at' 0 base 2, run, rfl, counter, stack⟩

end Machine

end Chip8
