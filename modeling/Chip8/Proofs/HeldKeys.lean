/-
  The keypad as a set of held keys.

  Whatever has been done to a keypad, a key is held if the LAST use that concerns it was a press, and only
  then (`held_after_iff`).  Uses that name no key are refused before they touch a flag, so they concern
  nothing (`on_of_no_key`).  The induction is on the last use: one that concerns the key settles the matter
  alone, and any other leaves flag and history of the key as they were.

  Three questions can be asked of a keypad, and they have to agree: which keys are held, whether one key is,
  and which is the lowest.  The keys are listed in ascending order (`pairwise_pressed`), so the lowest is the
  first of the list (`firstPressed_eq_some_iff`).
-/
import Chip8.Machine.Keypad
import Mathlib.Data.List.FinRange
import Mathlib.Data.List.Induction

namespace Chip8.Keypad

variable {k : Keypad} {key : Nibble}

/-! ## Held keys -/

/-- No key is held. -/
def Free (k : Keypad) : Prop := ∀ key, k.held key = false

/-- A key is held, and none below it. -/
def Lowest (k : Keypad) (key : Nibble) : Prop :=
  k.held key = true ∧ ∀ other, k.held other = true → key ≤ other

theorem pairwise_pressed (k : Keypad) : k.pressed.Pairwise (· < ·) :=
  (List.pairwise_lt_finRange 16).filter _

theorem firstPressed_eq_none_iff : k.firstPressed = none ↔ k.Free := by
  rw [firstPressed_eq_head?, pressed, List.head?_filter, List.find?_eq_none]
  simp [Free, List.mem_finRange]

/-- The first of the held keys in ascending order is the lowest one. -/
theorem firstPressed_eq_some_iff : k.firstPressed = some key ↔ k.Lowest key := by
  have ascending := k.pairwise_pressed
  rw [firstPressed_eq_head?]
  constructor
  · intro first
    obtain ⟨rest, list⟩ := List.head?_eq_some_iff.mp first
    rw [list] at ascending
    refine ⟨(k.mem_pressed_iff key).mp (by rw [list]; exact List.mem_cons_self), ?_⟩
    intro other held
    have member := (k.mem_pressed_iff other).mpr held
    rw [list] at member
    rcases List.mem_cons.mp member with rfl | later
    · exact Fin.le_refl _
    · exact Fin.le_of_lt (List.rel_of_pairwise_cons ascending later)
  · rintro ⟨held, lowest⟩
    have member := (k.mem_pressed_iff key).mpr held
    cases list : k.pressed with
    | nil =>
      rw [list] at member
      cases member
    | cons first rest =>
      have first_held := (k.mem_pressed_iff first).mp (by rw [list]; exact List.mem_cons_self)
      rw [list] at member ascending
      rw [List.head?_cons, Option.some.injEq]
      rcases List.mem_cons.mp member with rfl | later
      · rfl
      · have below := List.rel_of_pairwise_cons ascending later
        exact absurd (lowest first first_held) (Fin.not_le.mpr below)

/-! ## Uses -/

/-- What can be done to a keypad.  Keys are named by integers, which need not be keys. -/
inductive Use
  | press (index : Int)
  | release (index : Int)
  | releaseAll
  | isPressed (index : Int)
deriving DecidableEq

/-- What a use is answered with: nothing, whether the key is held, or why it is refused. -/
abbrev Answer := Except NoSuchKey (Option Bool)

namespace Use

/-- A use of a keypad.  If it is refused the keypad stays as it is. -/
def on (k : Keypad) : Use → Answer × Keypad
  | .press i => match k.press i with
    | .ok k' => (.ok none, k')
    | .error e => (.error e, k)
  | .release i => match k.release i with
    | .ok k' => (.ok none, k')
    | .error e => (.error e, k)
  | .releaseAll => (.ok none, idle)
  | .isPressed i => match k.isPressed i with
    | .ok down => (.ok (some down), k)
    | .error e => (.error e, k)

/-- A use of the key that a number names. -/
inductive Names (i : Int) : Use → Prop
  | press : Names i (.press i)
  | release : Names i (.release i)
  | isPressed : Names i (.isPressed i)

/-- A use after which a key is held, or is not, whatever it was before. -/
inductive Settles (key : Nibble) : Use → Bool → Prop
  | press : Settles key (.press key.val) true
  | release : Settles key (.release key.val) false
  | releaseAll : Settles key .releaseAll false

theorem unsettled_iff {u : Use} :
    (∀ down, ¬ u.Settles key down) ↔
      u ≠ .press key.val ∧ u ≠ .release key.val ∧ u ≠ .releaseAll := by
  constructor
  · intro other
    refine ⟨?_, ?_, ?_⟩
    · rintro rfl
      exact other true .press
    · rintro rfl
      exact other false .release
    · rintro rfl
      exact other false .releaseAll
  · rintro ⟨press, release, all⟩ down settles
    cases settles with
    | press => exact press rfl
    | release => exact release rfl
    | releaseAll => exact all rfl

end Use

/-- A keypad after uses, one after the other. -/
def after (k : Keypad) (us : List Use) : Keypad := us.foldl (fun k u => (Use.on k u).2) k

theorem after_snoc (k : Keypad) (us : List Use) (u : Use) :
    k.after (us ++ [u]) = (Use.on (k.after us) u).2 := by
  rw [after, List.foldl_append]
  rfl

/-! ## One use -/

theorem key_of_range {i : Int} (range : 0 ≤ i ∧ i < 16) :
    ∃ key : Nibble, i = key.val ∧ Keypad.key i = .ok key := by
  refine ⟨⟨i.toNat, by omega⟩, ?_, dif_pos range⟩
  show i = (i.toNat : Int)
  omega

theorem key_of_no_key {i : Int} (outside : ¬ (0 ≤ i ∧ i < 16)) : Keypad.key i = .error ⟨i⟩ :=
  dif_neg outside

theorem key_val (key : Nibble) : Keypad.key key.val = .ok key := key_natCast key.isLt

/-- A use of a number that names no key is refused, and the keypad left alone. -/
theorem on_of_no_key {i : Int} {u : Use} (outside : ¬ (0 ≤ i ∧ i < 16)) (names : u.Names i) (k : Keypad) :
    Use.on k u = (.error ⟨i⟩, k) := by
  cases names with
  | press => simp only [Use.on, press, key_of_no_key outside]; rfl
  | release => simp only [Use.on, release, key_of_no_key outside]; rfl
  | isPressed => simp only [Use.on, isPressed, key_of_no_key outside]; rfl

theorem on_press (k : Keypad) (key : Nibble) :
    Use.on k (.press key.val) = (.ok none, k.set key true) := by
  simp only [Use.on, press, key_val]
  rfl

theorem on_release (k : Keypad) (key : Nibble) :
    Use.on k (.release key.val) = (.ok none, k.set key false) := by
  simp only [Use.on, release, key_val]
  rfl

theorem on_isPressed (k : Keypad) (key : Nibble) :
    Use.on k (.isPressed key.val) = (.ok (some (k.held key)), k) := by
  simp only [Use.on, isPressed, key_val]
  rfl

theorem held_of_settles {u : Use} {down : Bool} (settles : u.Settles key down) (k : Keypad) :
    (Use.on k u).2.held key = down := by
  cases settles with
  | press => rw [on_press, held_set, if_pos rfl]
  | release => rw [on_release, held_set, if_pos rfl]
  | releaseAll => exact held_idle key

/-- A use that does not settle a key leaves it alone: it is refused, or is about another key, or only asks. -/
theorem held_of_unsettled {u : Use} (other : ∀ down, ¬ u.Settles key down) (k : Keypad) :
    (Use.on k u).2.held key = k.held key := by
  cases u with
  | press i =>
    by_cases range : 0 ≤ i ∧ i < 16
    · obtain ⟨pressed, rfl, -⟩ := key_of_range range
      have apart : pressed ≠ key := by
        rintro rfl
        exact other true .press
      rw [on_press, held_set, if_neg apart]
    · rw [on_of_no_key range .press]
  | release i =>
    by_cases range : 0 ≤ i ∧ i < 16
    · obtain ⟨released, rfl, -⟩ := key_of_range range
      have apart : released ≠ key := by
        rintro rfl
        exact other false .release
      rw [on_release, held_set, if_neg apart]
    · rw [on_of_no_key range .release]
  | releaseAll => exact absurd .releaseAll (other false)
  | isPressed i =>
    by_cases range : 0 ≤ i ∧ i < 16
    · obtain ⟨asked, rfl, -⟩ := key_of_range range
      rw [on_isPressed]
    · rw [on_of_no_key range .isPressed]

/-! ## One use after the other -/

/-- The last of the uses that settle a key is a press. -/
def LastPressed (us : List Use) (key : Nibble) : Prop :=
  ∃ earlier later, us = earlier ++ .press key.val :: later ∧ ∀ u ∈ later, ∀ down, ¬ u.Settles key down

theorem LastPressed.snoc {us : List Use} {u : Use} (last : LastPressed us key)
    (other : ∀ down, ¬ u.Settles key down) : LastPressed (us ++ [u]) key := by
  obtain ⟨earlier, later, rfl, unsettled⟩ := last
  refine ⟨earlier, later ++ [u], by rw [List.append_assoc, List.cons_append], ?_⟩
  intro v member
  rcases List.mem_append.mp member with before | new
  · exact unsettled v before
  · rw [List.mem_singleton.mp new]
    exact other

theorem LastPressed.of_snoc {us : List Use} {u : Use} (last : LastPressed (us ++ [u]) key) :
    u = .press key.val ∨ (∀ down, ¬ u.Settles key down) ∧ LastPressed us key := by
  obtain ⟨earlier, later, split, unsettled⟩ := last
  rcases List.eq_nil_or_concat later with rfl | ⟨rest, v, rfl⟩
  · exact Or.inl (List.singleton_inj.mp (List.append_inj_right' split rfl))
  · rw [List.concat_eq_append, ← List.cons_append, ← List.append_assoc] at split
    obtain ⟨before, same⟩ := List.append_inj' split rfl
    obtain rfl := List.singleton_inj.mp same
    rw [List.concat_eq_append] at unsettled
    refine Or.inr ⟨unsettled u (by simp), earlier, rest, before, fun v member => ?_⟩
    exact unsettled v (List.mem_append_left _ member)

/-- A key is held after uses of an idle keypad if the last of them that settles it is a press. -/
theorem held_after_iff (us : List Use) (key : Nibble) :
    (idle.after us).held key = true ↔ LastPressed us key := by
  induction us using List.reverseRecOn with
  | nil =>
    have none : ¬ LastPressed [] key := by
      rintro ⟨earlier, later, split, -⟩
      exact absurd split.symm (by simp)
    simpa [after] using none
  | append_singleton us u ih =>
    rw [after_snoc]
    by_cases settles : ∃ down, u.Settles key down
    · obtain ⟨down, settles⟩ := settles
      rw [held_of_settles settles]
      constructor
      · rintro rfl
        cases settles
        exact ⟨us, [], rfl, fun _ member => absurd member List.not_mem_nil⟩
      · intro last
        rcases last.of_snoc with rfl | ⟨other, -⟩
        · cases settles
          rfl
        · exact absurd settles (other down)
    · rw [not_exists] at settles
      rw [held_of_unsettled settles, ih]
      constructor
      · exact fun last => last.snoc settles
      · intro last
        rcases last.of_snoc with rfl | ⟨-, last⟩
        · exact absurd .press (settles true)
        · exact last

/-- **The keypad is a set of held keys.**  After any uses of an idle keypad a key is held exactly if the last
    of them that settles it is a press.  Numbers that name no key are refused, and a refusal changes nothing;
    the other uses are carried out.  The pressed keys are the held ones in ascending order, asking for a key
    is asking whether it is one of them, and the first pressed key is the first of the list, if there is
    one. -/
theorem used_as_set (us : List Use) :
    let k := idle.after us
    (∀ i u, u.Names i → ¬ (0 ≤ i ∧ i < 16) → Use.on k u = (.error ⟨i⟩, k)) ∧
      (∀ key : Nibble,
        Use.on k (.press key.val) = (.ok none, k.set key true) ∧
        Use.on k (.release key.val) = (.ok none, k.set key false) ∧
        ∃ down, Use.on k (.isPressed key.val) = (.ok (some down), k) ∧
          (down = true ↔ key ∈ k.pressed)) ∧
      (∀ key : Nibble, k.held key = true ↔
        ∃ earlier later, us = earlier ++ .press key.val :: later ∧
          ∀ u ∈ later, u ≠ .press key.val ∧ u ≠ .release key.val ∧ u ≠ .releaseAll) ∧
      k.pressed.Pairwise (· < ·) ∧ (∀ key, key ∈ k.pressed ↔ k.held key = true) ∧
      (k.pressed = [] → k.firstPressed = none) ∧
      ∀ first rest, k.pressed = first :: rest → k.firstPressed = some first := by
  intro k
  refine ⟨fun i u names outside => on_of_no_key outside names k, fun key => ?_, fun key => ?_,
    k.pairwise_pressed, k.mem_pressed_iff, fun none => ?_, fun first rest list => ?_⟩
  · exact ⟨on_press k key, on_release k key, k.held key, on_isPressed k key,
      (k.mem_pressed_iff key).symm⟩
  · show (idle.after us).held key = true ↔ _
    rw [held_after_iff, LastPressed]
    simp only [Use.unsettled_iff]
  · rw [firstPressed_eq_head?, none, List.head?_nil]
  · rw [firstPressed_eq_head?, list, List.head?_cons]

/-- Key 0 alone, after a press of 5 that was taken back: it is the highest flag and it is held.  The numbers
    next to both ends are refused. -/
theorem used_as_set_with_key_zero :
    let us : List Use := [.press 5, .press 0, .press 16, .isPressed 5, .release 5, .release (-1)]
    let k := idle.after us
    k.held 0 = true ∧ k.held 5 = false ∧ k.firstPressed = some 0 ∧
      Use.on k (.press 16) = (.error ⟨16⟩, k) := by
  intro us k
  obtain ⟨refused, -, history, -, -, -, first⟩ := used_as_set us
  have zero : k.held 0 = true := by
    refine (history 0).mpr ⟨[.press 5], _, rfl, ?_⟩
    decide
  have five : k.held 5 = false := by decide
  exact ⟨zero, five, first 0 [] (by decide), refused 16 _ .press (by decide)⟩

end Chip8.Keypad
