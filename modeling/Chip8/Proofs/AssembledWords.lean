/-
  Words that are assembled, fetched and taken apart.

  To assemble is to put words one after the other, two bytes each, the high one first; to fetch is to put
  two bytes together and move two on.  Both go by twos from 0x200, an even address, so a fetch never comes
  between two words, nor round the end of memory within one.  In memory word number `j` is at address
  `2 * j`; the program starts with number 0x100 and there is room up to number 0x800, where the count
  begins again with the glyphs.  That is `wordAt_assembled`, and it is the whole of what a fetch can find.

  Fetches change the counter and nothing else, so that any number of them is one step of the counter
  (`Machine.state_after_fetches`); the induction is on the number, for any counter to begin with.
-/
import Chip8.Proofs.KeyWait
import Chip8.Proofs.Requests

namespace Chip8

/-! ## Bytes of words -/

namespace Word

/-- The bytes of a word, the high one first. -/
def bytes (w : Word) : List UInt8 := [UInt8.ofNat (w.toNat / 256), w.nn]

/-- The bytes of one word after the other. -/
def assemble (words : List Word) : Bytes := (words.flatMap bytes).toArray

theorem ofBytes_bytes (w : Word) : ofBytes (UInt8.ofNat (w.toNat / 256)) w.nn = w := by
  have bound := w.toNat_lt
  apply UInt16.toNat_inj.mp
  rw [toNat_ofBytes, toNat_nn, UInt8.toNat_ofNat']
  omega

theorem ofInt_toNat (w : Word) : ofInt w.toNat = w := by
  have bound := w.toNat_lt
  have value := toNat_ofInt w.toNat
  apply UInt16.toNat_inj.mp
  omega

/-- Two bytes at an even place among those of words make up a word again, which is zero behind the last. -/
theorem ofBytes_assemble (words : List Word) (i : Nat) :
    ofBytes ((assemble words).getD (2 * i) 0) ((assemble words).getD (2 * i + 1) 0) =
      words.getD i 0 := by
  have listed (k : Nat) : (assemble words).getD k 0 = (words.flatMap bytes).getD k 0 := by
    rw [assemble, Array.getD_eq_getD_getElem?, List.getElem?_toArray, List.getD_eq_getElem?_getD]
  rw [listed, listed]
  clear listed
  induction words generalizing i with
  | nil => rfl
  | cons w rest ih =>
    cases i with
    | zero => exact ofBytes_bytes w
    | succ i => exact ih i

end Word

namespace Memory

/-- The word that starts at `a`. -/
def wordAt (m : Memory) (a : Int) : Word := Word.ofBytes (m.read a) (m.read (a + 1))

theorem wordAt_congr (m : Memory) {a a' : Int} (same : a % 4096 = a' % 4096) :
    m.wordAt a = m.wordAt a' := by
  rw [wordAt, wordAt, m.read_congr same, m.read_congr (show (a + 1) % 4096 = (a' + 1) % 4096 by omega)]

/-- Word number `j` of the memory of a program that is assembled. -/
theorem wordAt_assembled (words : List Word) {j : Nat} (inside : j < 0x800) :
    (fresh.load (Word.assemble words)).wordAt (2 * j : Nat) =
      if j < 0x100 then Word.ofBytes (glyphs.getD (2 * j) 0) (glyphs.getD (2 * j + 1) 0)
      else words.getD (j - 0x100) 0 := by
  have byte (a : Nat) (address : a < 4096) :
      (fresh.load (Word.assemble words)).read a =
        if 0x200 ≤ a then (Word.assemble words).getD (a - 0x200) 0 else glyphs.getD a 0 :=
    Machine.read_program (Word.assemble words) ⟨a, address⟩
  rw [wordAt, show ((2 * j : Nat) : Int) + 1 = (2 * j + 1 : Nat) by omega, byte _ (by omega),
    byte _ (by omega)]
  by_cases below : j < 0x100
  · rw [if_neg (by omega), if_neg (by omega), if_pos below]
  · rw [if_pos (by omega), if_pos (by omega), if_neg below, ← Word.ofBytes_assemble,
      show 2 * j - 0x200 = 2 * (j - 0x100) by omega,
      show 2 * j + 1 - 0x200 = 2 * (j - 0x100) + 1 by omega]

end Memory

/-! ## Fetches -/

theorem State.nextWord_eq_wordAt (s : State) : s.nextWord = s.memory.wordAt s.counter :=
  s.memory.wordAt_congr (Int.emod_emod _ _)

namespace Machine

theorem state_after_fetches : ∀ (n : Nat) {m : Machine} {c : Int}, m.state.counter = c % 4096 →
    (m.after (List.replicate n .fetch)).state = { m.state with counter := (c + 2 * n) % 4096 } := by
  intro n
  induction n with
  | zero =>
    intro m c start
    rw [show c + 2 * ((0 : Nat) : Int) = c by omega, ← start]
    rfl
  | succ n ih =>
    intro m c start
    have next : (Operation.apply m .fetch).state.counter = (c + 2) % 4096 := by
      show (m.state.counter % 4096 + 2) % 4096 = _
      omega
    have rest := ih next
    rw [show c + 2 + 2 * (n : Int) = c + 2 * ((n + 1 : Nat) : Int) by omega] at rest
    exact rest

/-- After so many fetches of a program the next word is the one at twice that number behind its start. -/
theorem nextWord_after_fetches (key : RandomKey) (program : Bytes) (n : Nat) :
    ((ofProgram key program).after (List.replicate n .fetch)).state.nextWord =
      (Memory.fresh.load program).wordAt (0x200 + 2 * n) := by
  rw [state_after_fetches (m := ofProgram key program) (c := 0x200) n rfl, State.nextWord_eq_wordAt]
  exact Memory.wordAt_congr _ (Int.emod_emod _ _)

/-- The same by the number of the word in memory. -/
theorem nextWord_of_assembled (key : RandomKey) (words : List Word) (n : Nat) {j : Nat}
    (inside : j < 0x800) (place : (n + 0x100) % 0x800 = j) :
    ((ofProgram key (Word.assemble words)).after (List.replicate n .fetch)).state.nextWord =
      if j < 0x100 then Word.ofBytes (Memory.glyphs.getD (2 * j) 0) (Memory.glyphs.getD (2 * j + 1) 0)
      else words.getD (j - 0x100) 0 := by
  rw [nextWord_after_fetches, ← Memory.wordAt_assembled words inside]
  exact Memory.wordAt_congr _ (by omega)

/-- **Fetching gives back what was assembled.**  On a machine started on assembled words the fetches, one
    after the other, move the counter on by twos round the end of memory and find the words in order, as
    many as there is room for, then zeros to the end, then what is at address 0 and after: the glyphs, zeros,
    and the words again.  The fields of a word have their widths and make up the word, its last byte and its
    last twelve bits.  And from any state, whatever its counter, a fetch puts together the bytes at the
    counter and after it, both modulo 4096. -/
theorem fetched_words (key : RandomKey) (words : List Word) (n : Nat) :
    let m := ofProgram key (Word.assemble words)
    let s := (m.after (List.replicate n .fetch)).state
    let w := s.fetch.1
    (m.after (List.replicate (n + 1) .fetch)).state.counter = (0x200 + 2 * ((n : Int) + 1)) % 4096 ∧
      (n < min words.length 0x700 → words[n]? = some w) ∧
      (words.length ≤ n → n < 0x700 → w = 0) ∧
      (0x700 ≤ n →
        w = m.state.memory.wordAt (2 * (n - 0x700) : Nat) ∧
        let j := (n - 0x700) % 0x800
        w = if j < 0x100 then Word.ofBytes (Memory.glyphs.getD (2 * j) 0) (Memory.glyphs.getD (2 * j + 1) 0)
          else words.getD (j - 0x100) 0) ∧
      (Word.ofInt w.toNat = w ∧
        (w.family.val < 16 ∧ w.x.val < 16 ∧ w.y.val < 16 ∧ w.n.val < 16 ∧ w.nn.toNat < 256 ∧
          w.nnn.val < 4096) ∧
        w.toNat = 4096 * w.family.val + 256 * w.x.val + 16 * w.y.val + w.n.val ∧
        w.nn.toNat = 16 * w.y.val + w.n.val ∧ w.nnn.val = 256 * w.x.val + w.nn.toNat) ∧
      ∀ t : State, t.fetch.1.toNat =
        256 * (t.memory.read t.counter).toNat + (t.memory.read (t.counter + 1)).toNat := by
  intro m s w
  have early (near : n < 0x700) : w = words.getD n 0 := by
    show s.nextWord = _
    rw [nextWord_of_assembled key words n (j := n + 0x100) (by omega) (by omega), if_neg (by omega),
      Nat.add_sub_cancel]
  refine ⟨?_, ?_, ?_, ?_, ⟨w.ofInt_toNat,
    ⟨w.family.isLt, w.x.isLt, w.y.isLt, w.n.isLt, w.nn.toNat_lt, w.nnn.isLt⟩,
    w.toNat_eq_fields, w.toNat_nn_eq, w.nnn_eq⟩, State.toNat_nextWord⟩
  · rw [state_after_fetches (m := m) (c := 0x200) (n + 1) rfl]
    show (0x200 + 2 * ((n + 1 : Nat) : Int)) % 4096 = _
    omega
  · intro near
    rw [early (by omega), List.getD_eq_getElem?_getD, List.getElem?_eq_getElem (by omega),
      Option.getD_some]
  · intro behind near
    rw [early near, List.getD_eq_getElem?_getD, List.getElem?_eq_none behind]
    rfl
  · intro round
    refine ⟨?_, nextWord_of_assembled key words n (by omega) (by omega)⟩
    show s.nextWord = _
    rw [nextWord_after_fetches]
    exact Memory.wordAt_congr _ (by omega)

/-- One word more than there is room for: the last that fits, the first glyph in place of the one that does
    not, and the first word again. -/
theorem fetched_words_round_the_end :
    let m := ofProgram RandomKey.zero (Word.assemble (List.replicate 0x701 0xABCD))
    let fetched (n : Nat) : Word := (m.after (List.replicate n .fetch)).state.fetch.1
    fetched 0x6FF = 0xABCD ∧ fetched 0x700 = 0xF090 ∧ fetched 0x800 = 0xABCD := by
  intro m fetched
  have words := fetched_words RandomKey.zero (List.replicate 0x701 0xABCD)
  obtain ⟨-, fits, -⟩ := words 0x6FF
  obtain ⟨-, -, -, wraps, -⟩ := words 0x700
  obtain ⟨-, -, -, again, -⟩ := words 0x800
  have last := fits (by rw [List.length_replicate]; decide)
  rw [List.getElem?_replicate] at last
  refine ⟨(Option.some.inj last).symm, (wraps (by decide)).2.trans (by decide), ?_⟩
  refine (again (by decide)).2.trans ((if_neg (by decide)).trans ?_)
  rw [List.getD_eq_getElem?_getD, List.getElem?_replicate]
  rfl

end Machine

end Chip8
