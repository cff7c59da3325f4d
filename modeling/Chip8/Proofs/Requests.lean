/-
  Reloading a machine.

  A program may be started at any time: on a new machine, in the middle of another program, after a
  fault, or after any number of attempts to read it that came to nothing.  It makes no difference.  A
  reload that succeeds leaves the machine that a NEW one with the same key is when it is given the same
  bytes, so that the two cannot be told apart by anything that is done to them later; and one that does
  not succeed leaves the machine as it was.

  What carries this through a history is the ORIGIN, the key that the machine was made with: no request
  changes it (`origin_serve`, `origin_afterAll`), and besides the program it is all that a reload goes by.
  `Pristine` lists what is in a machine that knows of nothing but its program.
-/
import Chip8.Proofs.Execution
import Chip8.Proofs.RandomStream
import Chip8.Request

namespace Chip8

namespace Machine

variable {m : Machine} {threshold : Log.Level} {d : Devices} {directory : Directory} {source : Source}

/-! ## One request -/

theorem serve_load_of_read {program : Bytes} (read : source.read directory = .ok program) :
    m.serve threshold d (.load directory source) =
      ⟨m.load program, d, none, loadEntries threshold program⟩ := by
  simp only [serve, read]
  rfl

theorem serve_load_of_unread {e : ReadFailure} (unread : source.read directory = .error e) :
    m.serve threshold d (.load directory source) = ⟨m, d, some (.unread e), []⟩ := by
  simp only [serve, unread]

theorem serve_cycle (m : Machine) (threshold : Log.Level) (d : Devices) :
    m.serve threshold d .cycle =
      ⟨(m.cycle d).machine, (m.cycle d).devices, (m.cycle d).trap.map .trapped,
        (m.cycleLogged threshold d).1⟩ := by
  rw [serve, cycleLogged_eq]

theorem serve_execute (m : Machine) (threshold : Log.Level) (d : Devices) (word : Int) :
    m.serve threshold d (.execute word) =
      ⟨(m.execute d word).machine, (m.execute d word).devices,
        (m.execute d word).trap.map .trapped, []⟩ := rfl

/-- A request is an operation on the machine or nothing at all. -/
theorem machine_serve (m : Machine) (threshold : Log.Level) (d : Devices) (r : Request) :
    (m.serve threshold d r).machine = m ∨
      ∃ o : Operation, (m.serve threshold d r).machine = o.apply m := by
  rcases r with ⟨directory, source⟩ | _ | word
  · rcases read : source.read directory with e | program
    · rw [serve_load_of_unread read]
      exact Or.inl rfl
    · rw [serve_load_of_read read]
      exact Or.inr ⟨.load program, rfl⟩
  · rw [serve_cycle]
    exact Or.inr ⟨.cycle d, rfl⟩
  · rw [serve_execute]
    exact Or.inr ⟨.execute d word, rfl⟩

/-- No request changes the key that programs are started with. -/
theorem origin_serve (m : Machine) (threshold : Log.Level) (d : Devices) (r : Request) :
    (m.serve threshold d r).machine.origin = m.origin := by
  rcases machine_serve m threshold d r with same | ⟨o, same⟩
  · rw [same]
  · rw [same, origin_apply]

/-! ## One turn after the other -/

theorem origin_afterAll (threshold : Log.Level) : ∀ (turns : List Turn) (m : Machine) (d : Devices),
    (m.afterAll threshold d turns).1.origin = m.origin := by
  intro turns
  induction turns with
  | nil => intro m d; rfl
  | cons t rest ih =>
    intro m d
    rw [afterAll, ih]
    exact origin_serve m threshold (t.prepare d) t.request

/-! ## What a program finds -/

/-- A machine that a program was just started on: its bytes from 0x200 on, the glyphs below, and zeros
    everywhere else. -/
structure Pristine (k : RandomKey) (program : Bytes) (m : Machine) : Prop where
  cell : ∀ a : Address, m.state.memory.read a.val =
    if 0x200 ≤ a.val then program.getD (a.val - 0x200) 0 else Memory.glyphs.getD a.val 0
  register : ∀ x : Register, m.state.register x = 0
  slot : ∀ i : Nat, ∀ h : i < 16, m.state.stack.slots[i] = 0
  depth : m.state.stack.depth = 0
  counter : m.state.counter = 0x200
  index : m.state.index = 0
  delay : m.state.delay = 0
  sound : m.state.sound = 0
  key : m.state.key = k
  origin : m.origin = k
  cycles : m.cycles = 0

theorem read_program (program : Bytes) (a : Address) :
    (Memory.fresh.load program).read a.val =
      if 0x200 ≤ a.val then program.getD (a.val - 0x200) 0 else Memory.glyphs.getD a.val 0 := by
  have place : (Address.ofInt a.val).val = a.val := by
    have := a.isLt
    have := Address.val_ofInt (a.val : Int)
    omega
  rw [Memory.read_load, Memory.read_fresh, place]
  split
  · -- the glyphs end long before a program begins
    rename_i above
    have none : Memory.glyphs.getD a.val 0 = 0 := by
      have size : Memory.glyphs.size = 80 := rfl
      rw [Array.getD_eq_getD_getElem?, Array.getElem?_eq_none (by omega), Option.getD_none]
    rw [none]
  · rfl

/-- The glyphs are what they are under every program. -/
theorem readBlock_glyph (program : Bytes) (digit : Nat) (known : digit < 16) :
    (Memory.fresh.load program).readBlock (5 * digit : Nat) 5 =
      (List.range 5).map fun k => Memory.glyphs.getD (5 * digit + k) 0 := by
  refine List.map_congr_left fun k near => ?_
  have below := List.mem_range.mp near
  have cell := read_program program ⟨5 * digit + k, by omega⟩
  rw [if_neg (by omega : ¬ 0x200 ≤ 5 * digit + k)] at cell
  exact cell

theorem pristine_ofProgram (key : RandomKey) (program : Bytes) :
    Pristine key program (ofProgram key program) where
  cell := read_program program
  register x := by
    show (Vector.replicate 16 (0 : UInt8))[x] = 0
    exact Vector.getElem_replicate x.isLt
  slot i h := by
    show (Vector.replicate 16 (0 : UInt16))[i] = 0
    exact Vector.getElem_replicate h
  depth := rfl
  counter := rfl
  index := rfl
  delay := rfl
  sound := rfl
  key := rfl
  origin := rfl
  cycles := rfl

/-- Within a program, the next word is two bytes of the program. -/
theorem nextWord_of_program {s : State} {program : Bytes} (memory : s.memory = Memory.fresh.load program)
    {k : Nat} (near : k < 0xDFF) (counter : s.counter = 0x200 + k) :
    s.nextWord = Word.ofBytes (program.getD k 0) (program.getD (k + 1) 0) := by
  have byte : ∀ j : Nat, j < 0xE00 →
      (Memory.fresh.load program).read (0x200 + j : Nat) = program.getD j 0 := by
    intro j below
    have cell := read_program program ⟨0x200 + j, by omega⟩
    rw [if_pos (Nat.le_add_right _ _), Nat.add_sub_cancel_left] at cell
    exact cell
  have place : s.address = (0x200 + k : Nat) := by
    show s.counter % 4096 = _
    omega
  have next : ((0x200 + k : Nat) : Int) + 1 = (0x200 + (k + 1) : Nat) := by omega
  unfold State.nextWord
  rw [memory, place, next, byte k (by omega), byte (k + 1) (by omega)]

/-- The first word of a program is its first two bytes. -/
theorem nextWord_ofProgram (key : RandomKey) (program : Bytes) :
    (ofProgram key program).state.nextWord = Word.ofBytes (program.getD 0 0) (program.getD 1 0) :=
  nextWord_of_program (s := (ofProgram key program).state) rfl (by decide : 0 < 0xDFF) (by rfl)

/-- Starting a program looks at the origin alone. -/
theorem load_eq_ofProgram (m : Machine) (program : Bytes) :
    m.load program = ofProgram m.origin program := rfl

/-- **A reload is a fresh start or nothing.**  However a machine was made with a key, and whatever was
    asked of it since then: if the source can be read, the machine is the one that is newly made with
    this key and given these bytes, it holds nothing else, and all later turns have the replies that
    they have on the new one; if the source cannot be read, the request is refused and the machine is
    the one that it was, with the key that it was made with. -/
theorem reload_fresh {key : RandomKey} (made : MadeWith key m) (threshold : Log.Level) (d : Devices)
    (history : List Turn) (directory : Directory) (source : Source) (d' : Devices) :
    let now := (m.afterAll threshold d history).1
    let reply := now.serve threshold d' (.load directory source)
    (∀ program, source.read directory = .ok program →
      reply.refusal = none ∧ reply.machine = ofProgram key program ∧
        Pristine key program reply.machine ∧
        ∀ (threshold' : Log.Level) (d'' : Devices) (later : List Turn),
          reply.machine.serveAll threshold' d'' later =
            (ofProgram key program).serveAll threshold' d'' later) ∧
    ∀ e, source.read directory = .error e →
      reply.refusal = some (.unread e) ∧ reply.machine = now ∧ reply.machine.origin = key := by
  intro now reply
  have origin : now.origin = key := (origin_afterAll threshold history m d).trans made.key_eq.2
  constructor
  · intro program read
    have answered : reply = ⟨ofProgram key program, d', none, loadEntries threshold program⟩ := by
      show now.serve threshold d' (.load directory source) = _
      rw [serve_load_of_read read, load_eq_ofProgram, origin]
    rw [answered]
    exact ⟨rfl, rfl, pristine_ofProgram key program, fun _ _ _ => rfl⟩
  · intro e unread
    have refused : reply = ⟨now, d', some (.unread e), []⟩ := serve_load_of_unread unread
    rw [refused]
    exact ⟨rfl, rfl, origin⟩

/-- A machine that goes on from a state: a random word, a register set, a machine-language call that
    fails and a source that is refused, then a reload. -/
theorem reload_fresh_after_a_refusal :
    let m := ofState (State.fresh RandomKey.zero)
    let history : List Turn :=
      [⟨id, .execute 0xC0FF⟩, ⟨id, .execute 0x6107⟩, ⟨id, .execute 0x0123⟩, ⟨id, .load {} (.other "int")⟩]
    let now := (m.afterAll .info Devices.idle history).1
    let program : Bytes := #[0x12, 0x00]
    MadeWith RandomKey.zero m ∧ now.state.register 1 = 7 ∧
      (now.serve .info Devices.idle (.load {} (.bytes program))).machine =
        ofProgram RandomKey.zero program ∧
      (now.serve .info Devices.idle (.load {} (.other "int"))).machine = now := by
  intro m history now program
  have made : MadeWith RandomKey.zero m := .state (State.fresh RandomKey.zero) rfl
  have reload := reload_fresh made .info Devices.idle history {}
  obtain ⟨-, started, -, -⟩ := (reload (.bytes program) Devices.idle).1 program rfl
  obtain ⟨-, left, -⟩ := (reload (.other "int") Devices.idle).2 (.rom (.notReader "int")) rfl
  exact ⟨made, by decide +kernel, started, left⟩

end Machine

end Chip8
