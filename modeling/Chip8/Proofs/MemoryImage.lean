/-
  What memory holds under a program.

  A program lies at 0x200 and nowhere else.  `Memory.getElem?_load` says so byte by byte: the addresses from
  0x200 on that the program is long enough for have its bytes, every other address has what it had.  The
  number of addresses up to the end, 0xE00, comes in as the LESSER of two lengths only; the empty program,
  the one that fits exactly and the one that is too long are not told apart.

  All else follows from what is where.  The bytes past the end make no difference (`Memory.load_take`), a
  second program covers the first as far as it reaches (`Memory.load_load`), and over a fresh memory the
  whole is the glyphs, zeros, the program and zeros (`Memory.toList_program`).
-/
import Chip8.Proofs.Requests

namespace Chip8

/-! ## Byte by byte -/

namespace Memory

variable (m : Memory) (program later : Bytes)

theorem getElem?_load (a : Nat) :
    (m.load program).toList[a]? =
      if 0x200 ≤ a ∧ a < 0x200 + min program.size 0xE00 then program[a - 0x200]? else m.toList[a]? := by
  rw [Vector.getElem?_toList, Vector.getElem?_toList]
  by_cases inside : a < 4096
  · rw [Vector.getElem?_eq_getElem inside, Vector.getElem?_eq_getElem inside, getElem_load]
    by_cases above : 0x200 ≤ a
    · rw [if_pos above, Array.getD_eq_getD_getElem?]
      by_cases reached : a - 0x200 < program.size
      · rw [if_pos (by omega), Array.getElem?_eq_getElem reached, Option.getD_some]
      · rw [if_neg (by omega), Array.getElem?_eq_none (by omega), Option.getD_none]
    · rw [if_neg above, if_neg (fun h => above h.1)]
  · rw [if_neg (by omega), Vector.getElem?_eq_none (by omega), Vector.getElem?_eq_none (by omega)]

/-- What does not fit below the end of memory makes no difference. -/
theorem load_take : m.load (program.take 0xE00) = m.load program := by
  refine Vector.ext fun a inside => ?_
  rw [getElem_load, getElem_load]
  split
  · rw [Array.getD_eq_getD_getElem?, Array.getD_eq_getD_getElem?, Array.getElem?_extract]
    split
    · rw [Nat.zero_add]
    · rw [Array.getElem?_eq_none (by omega)]
  · rfl

/-- A second program lies over the first, whose tail is left if it is longer. -/
theorem load_load :
    (m.load program).load later = m.load (later ++ program.drop later.size) := by
  refine Vector.ext fun a inside => ?_
  rw [getElem_load, getElem_load, getElem_load]
  split
  · rw [Array.getD_eq_getD_getElem?, Array.getD_eq_getD_getElem?, Array.getD_eq_getD_getElem?,
      Array.getElem?_append]
    split
    · rename_i covered
      rw [Array.getElem?_eq_getElem covered]
      rfl
    · rename_i free
      rw [Array.getElem?_eq_none (by omega), Array.getElem?_extract,
        Nat.add_sub_cancel' (Nat.not_lt.mp free)]
      split
      · rfl
      · rw [Array.getElem?_eq_none (by omega)]
        rfl
  · rfl

theorem take_eq_self_iff : program.take 0xE00 = program ↔ program.size ≤ 0xE00 := by
  constructor
  · intro whole
    have := congrArg Array.size whole
    rw [Array.size_extract] at this
    omega
  · intro fits
    exact Array.extract_eq_self_of_le fits

/-! ## The whole of it -/

theorem toList_load :
    (m.load program).toList =
      m.toList.take 0x200 ++ program.toList.take 0xE00 ++ m.toList.drop (0x200 + program.size) := by
  refine List.ext_getElem? fun a => ?_
  have below : (m.toList.take 0x200).length = 0x200 := by
    rw [List.length_take, Vector.length_toList]
    rfl
  have upTo : (m.toList.take 0x200 ++ program.toList.take 0xE00).length =
      0x200 + min program.size 0xE00 := by
    rw [List.length_append, below, List.length_take, Array.length_toList, Nat.min_comm]
  rw [getElem?_load, List.getElem?_append, upTo, List.getElem?_append, below]
  by_cases low : a < 0x200
  · rw [if_neg (by omega), if_pos (by omega), if_pos low, List.getElem?_take_of_lt low]
  · by_cases inside : a < 0x200 + min program.size 0xE00
    · rw [if_pos (by omega), if_pos inside, if_neg low, List.getElem?_take_of_lt (by omega),
        Array.getElem?_toList]
    · rw [if_neg (by omega), if_neg inside, List.getElem?_drop]
      -- behind a program that does not fit there is nothing
      by_cases fits : program.size ≤ 0xE00
      · congr 1
        omega
      · rw [List.getElem?_eq_none (by rw [Vector.length_toList]; omega),
          List.getElem?_eq_none (by rw [Vector.length_toList]; omega)]

theorem toList_fresh : fresh.toList = glyphs.toList ++ List.replicate 0xFB0 0 := by
  have size : glyphs.toList.length = 80 := rfl
  refine List.ext_getElem? fun a => ?_
  rw [Vector.getElem?_toList, List.getElem?_append, size, List.getElem?_replicate]
  by_cases inside : a < 4096
  · rw [Vector.getElem?_eq_getElem inside, getElem_fresh, Array.getD_eq_getD_getElem?,
      ← Array.getElem?_toList]
    split
    · rename_i drawn
      rw [List.getElem?_eq_getElem (size ▸ drawn), Option.getD_some]
    · rename_i clear
      rw [if_pos (by omega), List.getElem?_eq_none (by omega), Option.getD_none]
  · rw [if_neg (by omega), if_neg (by omega), Vector.getElem?_eq_none (by omega)]

/-- A program on a fresh memory: the glyphs, zeros, as much of the program as fits, and zeros. -/
theorem toList_program :
    (fresh.load program).toList =
      glyphs.toList ++ List.replicate 0x1B0 0 ++ program.toList.take 0xE00 ++
        List.replicate (0xE00 - program.size) 0 := by
  have size : glyphs.toList.length = 80 := rfl
  have head : (glyphs.toList ++ List.replicate 0xFB0 0).take 0x200 =
      glyphs.toList ++ List.replicate 0x1B0 0 := by
    rw [List.take_append, List.take_of_length_le (by omega), size, List.take_replicate,
      show min (0x200 - 80) 0xFB0 = 0x1B0 from rfl]
  have tail : (glyphs.toList ++ List.replicate 0xFB0 0).drop (0x200 + program.size) =
      List.replicate (0xE00 - program.size) 0 := by
    rw [List.drop_append, List.drop_of_length_le (by omega), List.nil_append, size,
      List.drop_replicate]
    congr 1
    omega
  rw [toList_load, toList_fresh, head, tail]

end Memory

/-! ## Programs that are loaded -/

namespace Machine

/-- The messages about a program hold a warning if it is longer than its place, and only then. -/
theorem warns_iff {threshold : Log.Level} (shown : threshold.admits .warning = true) (program : Bytes) :
    (∃ e ∈ loadEntries threshold program, e.level = .warning) ↔ 0xE00 < program.size := by
  have other : ∀ text, ∀ e ∈ Log.note threshold .info text, e.level ≠ .warning := by
    intro text e member
    unfold Log.note at member
    split at member
    · rw [List.mem_singleton.mp member]
      rintro ⟨⟩
    · cases member
  unfold loadEntries
  show _ ↔ Memory.capacity < program.size
  split
  · rename_i long
    refine ⟨fun _ => long, fun _ => ?_⟩
    rw [Log.note, if_pos shown]
    exact ⟨_, List.mem_cons_self, rfl⟩
  · rename_i short
    refine ⟨?_, fun long => absurd long short⟩
    rintro ⟨e, member, warning⟩
    exact absurd warning (other _ e member)

/-- **The memory image of a program.**  Loading a program changes memory only: its bytes are at 0x200 and
    after, as many as there is room for, and every other byte is what it was.  So the bytes that do not fit
    make no difference, and a second program covers the first as far as it reaches.  A machine that is
    started on a program holds the glyphs, zeros up to 0x200, the program as far as it fits, and zeros to
    the end; so the glyphs are the same under every program.  At a level that shows warnings there is one
    in the log exactly if bytes were left out. -/
theorem loaded_image (s : State) (program later : Bytes) :
    let t := s.load program
    t = { s with memory := t.memory } ∧ t.memory.toList.length = 4096 ∧
      (∀ i, i < min program.size 0xE00 → t.memory.toList[0x200 + i]? = program[i]?) ∧
      (∀ a, a < 0x200 ∨ 0x200 + min program.size 0xE00 ≤ a →
        t.memory.toList[a]? = s.memory.toList[a]?) ∧
      s.load (program.take 0xE00) = t ∧
      t.load later = s.load (later ++ program.drop later.size) ∧
      ∀ (key : RandomKey) (threshold : Log.Level) (d : Devices) (directory : Directory) (source : Source),
        source.read directory = .ok program →
          let reply := (ofKey key).serve threshold d (.load directory source)
          let image := reply.machine.state.memory.toList
          reply.refusal = none ∧
            image = Memory.glyphs.toList ++ List.replicate 0x1B0 0 ++ program.toList.take 0xE00 ++
              List.replicate (0xE00 - program.size) 0 ∧
            image.take 80 = Memory.glyphs.toList ∧
            (threshold.admits .warning = true →
              ((∃ e ∈ reply.log, e.level = .warning) ↔ program.take 0xE00 ≠ program)) := by
  intro t
  refine ⟨rfl, Vector.length_toList, ?_, ?_, ?_, ?_, ?_⟩
  · intro i fits
    show (s.memory.load program).toList[0x200 + i]? = _
    rw [Memory.getElem?_load, if_pos (by omega), Nat.add_sub_cancel_left]
  · intro a outside
    show (s.memory.load program).toList[a]? = _
    rw [Memory.getElem?_load, if_neg (by omega)]
  · show s.load (program.take 0xE00) = s.load program
    rw [State.load, State.load, Memory.load_take]
  · show (s.load program).load later = s.load (later ++ program.drop later.size)
    rw [State.load, State.load, State.load, Memory.load_load]
  · intro key threshold d directory source read reply image
    have answered : reply = ⟨ofProgram key program, d, none, loadEntries threshold program⟩ :=
      serve_load_of_read read
    have whole : image = Memory.glyphs.toList ++ List.replicate 0x1B0 0 ++ program.toList.take 0xE00 ++
        List.replicate (0xE00 - program.size) 0 := by
      show reply.machine.state.memory.toList = _
      rw [answered]
      exact Memory.toList_program program
    refine ⟨?_, whole, ?_, fun shown => ?_⟩
    · rw [answered]
    · rw [whole, List.append_assoc, List.append_assoc]
      exact List.take_left' rfl
    · rw [answered, Ne, Memory.take_eq_self_iff, Nat.not_le]
      exact warns_iff shown program

/-- A program that is one byte longer than its place, under another of a single byte. -/
theorem loaded_image_of_one_byte_too_many :
    let s := State.fresh RandomKey.zero
    let program : Bytes := Array.replicate 0xE01 7
    (s.load program).memory.toList[0xFFF]? = some 7 ∧
      ((s.load program).load #[9]) = s.load (#[9] ++ program.drop 1) ∧
      ∃ e ∈ ((ofKey RandomKey.zero).serve .warning Devices.idle (.load {} (.bytes program))).log,
        e.level = .warning := by
  intro s program
  have size : program.size = 0xE01 := Array.size_replicate
  obtain ⟨-, -, bytes, -, -, covered, started⟩ := loaded_image s program #[9]
  obtain ⟨-, -, -, warned⟩ :=
    started RandomKey.zero .warning Devices.idle {} (.bytes program) rfl
  refine ⟨?_, covered, (warned (by decide)).mpr ?_⟩
  · have last := bytes 0xDFF (by omega)
    rw [Array.getElem?_eq_getElem (by omega), Array.getElem_replicate] at last
    exact last
  · rw [Ne, Memory.take_eq_self_iff, size]
    decide

end Machine

end Chip8
