/-
  The keypad: sixteen keys, each held down or not.

  Keys arrive from outside as integers; `press`, `release` and `isPressed` refuse those that name
  no key, and `isPressed_low` says that the low nibble of a byte is never refused.  `held_set` says
  what one change does, and `mem_pressed_iff` that the list of pressed keys holds exactly the held
  ones, in ascending order.

  The lowest held key is found as the first of the highest flags.  There always is one, so a keypad
  without a held key has to be told apart first; `firstPressed_eq_head?` says that nothing else is
  needed.
-/
import Chip8.Text.Hex
import Chip8.Machine.Word

namespace Chip8

/-- Which of the sixteen keys are held down. -/
structure Keypad where
  keys : Vector Bool 16
deriving DecidableEq

namespace Keypad

/-- The number of keys. -/
def size : Nat := 16

/-- No key held. -/
def idle : Keypad := ⟨Vector.replicate 16 false⟩

/-- Whether a key is held. -/
def held (k : Keypad) (key : Nibble) : Bool := k.keys[key]

/-- The key that a byte names by its low nibble. -/
def named (b : UInt8) : Nibble := ⟨b.toNat % 16, by omega⟩

/-- Holds a key down or lets it go. -/
def set (k : Keypad) (key : Nibble) (down : Bool) : Keypad :=
  ⟨k.keys.set key.val down key.isLt⟩

/-- The held keys in ascending order. -/
def pressed (k : Keypad) : List Nibble := (List.finRange 16).filter k.held

/-- Whether any key is held. -/
def anyHeld (k : Keypad) : Bool := (List.finRange 16).any k.held

/-- The one of two keys with the higher flag, the first of them if the flags are equal. -/
def higher (k : Keypad) (i j : Nibble) : Nibble := if !k.held i && k.held j then j else i

/-- The first of the keys with the highest flag: without a held key that is key 0. -/
def highest (k : Keypad) : Nibble := (List.finRange 16).foldl k.higher (named 0)

/-- The lowest held key. -/
def firstPressed (k : Keypad) : Option Nibble := if k.anyHeld then some k.highest else none

/-! ## Keys named by integers -/

/-- A number that names no key. -/
structure NoSuchKey where
  index : Int
deriving DecidableEq, Repr

/-- Says which number names no key. -/
def NoSuchKey.message (e : NoSuchKey) : String :=
  s!"Key index {e.index} out of range 0-{size - 1}"

/-- The key that a number names. -/
def key (index : Int) : Except NoSuchKey Nibble :=
  if h : 0 ≤ index ∧ index < 16 then .ok ⟨index.toNat, by omega⟩ else .error ⟨index⟩

/-- Holds a key down. -/
def press (k : Keypad) (index : Int) : Except NoSuchKey Keypad :=
  (key index).map fun i => k.set i true

/-- Lets a key go. -/
def release (k : Keypad) (index : Int) : Except NoSuchKey Keypad :=
  (key index).map fun i => k.set i false

/-- Whether a key is held. -/
def isPressed (k : Keypad) (index : Int) : Except NoSuchKey Bool :=
  (key index).map k.held

/-- A one line description. -/
def summary (k : Keypad) : String :=
  let names := k.pressed.map fun i => String.ofList (Hex.digits i.val)
  "Keypad(pressed=[" ++ " ".intercalate names ++ "])"

/-! ## What the operations do to the held keys -/

@[simp] theorem held_idle (i : Nibble) : idle.held i = false := by
  simp [held, idle]

theorem held_set (k : Keypad) (i j : Nibble) (down : Bool) :
    (k.set i down).held j = if i = j then down else k.held j := by
  simp only [held, set, Fin.getElem_fin, Vector.getElem_set, Fin.ext_iff]

@[ext] theorem ext {k l : Keypad} (h : ∀ i, k.held i = l.held i) : k = l := by
  obtain ⟨a⟩ := k
  obtain ⟨b⟩ := l
  congr 1
  apply Vector.ext
  intro i hi
  exact h ⟨i, hi⟩

theorem key_natCast {n : Nat} (h : n < 16) : key n = .ok ⟨n, h⟩ := by
  have range : 0 ≤ (n : Int) ∧ (n : Int) < 16 := by omega
  rw [key, dif_pos range]
  rfl

/-- The low nibble of a byte always names a key. -/
theorem isPressed_low (k : Keypad) (b : UInt8) :
    k.isPressed (b &&& 0xF).toNat = .ok (k.held (named b)) := by
  have low : (b &&& 0xF).toNat = b.toNat % 16 := by
    rw [UInt8.toNat_and]; exact Nat.and_two_pow_sub_one_eq_mod b.toNat 4
  rw [low, isPressed, key_natCast (Nat.mod_lt _ (by decide))]
  rfl

theorem mem_pressed_iff (k : Keypad) (i : Nibble) : i ∈ k.pressed ↔ k.held i = true := by
  simp [pressed, List.mem_finRange]

/-- A key with a set flag is kept, and otherwise the next one with a set flag is taken, if there is one. -/
theorem foldl_higher (k : Keypad) : ∀ (keys : List Nibble) (best : Nibble),
    keys.foldl k.higher best = if k.held best then best else (keys.find? k.held).getD best := by
  intro keys
  induction keys with
  | nil => intro best; simp
  | cons key rest ih =>
    intro best
    rw [List.foldl_cons, ih, higher]
    cases up : k.held best <;> cases next : k.held key <;> simp [up, next]

/-- The first of the highest flags is that of the first held key, if a key is held at all. -/
theorem firstPressed_eq_head? (k : Keypad) : k.firstPressed = k.pressed.head? := by
  have zero : List.finRange 16 = named 0 :: (List.finRange 15).map Fin.succ := List.finRange_succ
  rw [pressed, List.head?_filter, firstPressed, anyHeld, highest, foldl_higher]
  cases first : (List.finRange 16).find? k.held with
  | none =>
    have none : ¬ (List.finRange 16).any k.held = true := by
      rw [List.any_eq_true]
      rintro ⟨key, member, held⟩
      exact List.find?_eq_none.mp first key member held
    rw [if_neg none]
  | some key =>
    have some : (List.finRange 16).any k.held = true :=
      List.any_eq_true.mpr ⟨key, List.mem_of_find?_eq_some first, List.find?_some first⟩
    rw [if_pos some]
    cases up : k.held (named 0) with
    | false => rfl
    | true =>
      -- key 0 is the first of all
      rw [zero, List.find?_cons, up] at first
      exact first

end Keypad

end Chip8
