/-
  The call stack as a list.

  Seen from outside a stack is no more than the list of the addresses on it, the oldest first: a push puts
  one at the end, a pop takes the last one off, and there are at most sixteen.  An address is cut down to
  twelve bits when it is pushed, and at no other time.

  `Holds` ties the sixteen slots to such a list: those in use hold it in order, and the others hold ZERO.
  The second half is what makes a stack forget.  Without it two stacks of the same addresses could still
  differ in a slot that one of them has used before (`Holds.unique`); a pop keeps it by clearing the slot
  that it reads.

  `Holds.onStack` is one use of a stack beside the same use of its list, and `Holds.run` is any number of
  them.  The induction starts from any stack and list that belong together, since the second use finds
  what the first has left.
-/
import Chip8.Proofs.CallStack

namespace Chip8.CallStack

/-! ## Uses -/

/-- What can be done to a stack. -/
inductive Use
  /-- Push an address of any size or sign. -/
  | push (address : Int)
  /-- Pop the top. -/
  | pop

/-- What a use is answered with: nothing, the address that was popped, or why it is refused. -/
abbrev Answer := Except FaultKind (Option Nat)

namespace Use

/-- A use of a stack.  If it is refused there is no new stack, and the old one stays. -/
def onStack (k : CallStack) : Use → Answer × CallStack
  | .push a => match k.push a with
    | .ok k' => (.ok none, k')
    | .error kind => (.error kind, k)
  | .pop => match k.pop with
    | .ok (a, k') => (.ok (some a.toNat), k')
    | .error kind => (.error kind, k)

/-- The same use of a list of at most sixteen addresses, whose top is its last. -/
def onList (l : List Nat) : Use → Answer × List Nat
  | .push a =>
    if l.length < 16 then (.ok none, l ++ [(a % 4096).toNat]) else (.error .stackOverflow, l)
  | .pop => match l.getLast? with
    | some a => (.ok (some a), l.dropLast)
    | none => (.error .stackUnderflow, l)

/-- The answers to one use after the other, and what they leave. -/
def run {α : Type} (step : α → Use → Answer × α) (start : α) : List Use → List Answer × α
  | [] => ([], start)
  | u :: rest =>
    let first := step start u
    let later := run step first.2 rest
    (first.1 :: later.1, later.2)

end Use

/-! ## Slots and lists -/

/-- The slots in use hold a list in order, and the others zero. -/
structure Holds (k : CallStack) (l : List Nat) : Prop where
  depth : k.depth = l.length
  slot : ∀ i : Nat, ∀ hi : i < 16, k.slots[i].toNat = l.getD i 0

theorem getD_snoc (l : List Nat) (a i : Nat) :
    (l ++ [a]).getD i 0 = if l.length = i then a else l.getD i 0 := by
  rw [List.getD_eq_getElem?_getD, List.getD_eq_getElem?_getD]
  rcases Nat.lt_trichotomy i l.length with below | rfl | above
  · rw [List.getElem?_append_left below, if_neg (by omega)]
  · rw [List.getElem?_concat_length, if_pos rfl]
    rfl
  · rw [List.getElem?_eq_none (by simp only [List.length_append, List.length_singleton]; omega),
      List.getElem?_eq_none (by omega), if_neg (by omega)]

namespace Holds

variable {k k' : CallStack} {l : List Nat} {a b : Nat}

theorem length_le (held : k.Holds l) : l.length ≤ 16 :=
  held.depth ▸ k.depth_le

theorem empty : CallStack.empty.Holds [] where
  depth := rfl
  slot i hi := by
    show (Vector.replicate 16 (0 : UInt16))[i].toNat = 0
    rw [Vector.getElem_replicate]
    rfl

/-- A list is on one stack only, whatever has been on that stack before. -/
theorem unique (held : k.Holds l) (held' : k'.Holds l) : k = k' := by
  refine eq_of_slots (held.depth.trans held'.depth.symm) fun i hi => UInt16.toNat_inj.mp ?_
  rw [held.slot i hi, held'.slot i hi]

/-! ## One use -/

theorem push (held : k.Holds l) (room : l.length < 16) (address : Int) :
    ∃ k', k.push address = .ok k' ∧ k'.Holds (l ++ [(address % 4096).toNat]) := by
  rcases pushed : k.push address with kind | k'
  · have full := (push_eq_error_iff.mp pushed).1
    rw [held.depth] at full
    omega
  · obtain ⟨depth, slots⟩ := push_eq_ok pushed
    refine ⟨k', rfl, ?_, fun i hi => ?_⟩
    · rw [depth, held.depth, List.length_append, List.length_singleton]
    · rw [slots i hi, getD_snoc, ← held.depth]
      split
      · have := toNat_slot address
        omega
      · exact held.slot i hi

theorem push_full (held : k.Holds l) (full : l.length = 16) (address : Int) :
    k.push address = .error .stackOverflow :=
  push_eq_error_iff.mpr ⟨held.depth.trans full, rfl⟩

theorem pop (held : k.Holds (l ++ [b])) :
    ∃ a k', k.pop = .ok (a, k') ∧ a.toNat = b ∧ k'.Holds l := by
  have used : k.depth = l.length + 1 := by
    rw [held.depth, List.length_append, List.length_singleton]
  have bound := k.depth_le
  rcases popped : k.pop with kind | ⟨a, k'⟩
  · have none := (pop_eq_error_iff.mp popped).1
    omega
  · obtain ⟨depth, top, slots⟩ := pop_eq_ok popped
    have depth : k'.depth = l.length := by omega
    refine ⟨a, k', rfl, ?_, depth, fun i hi => ?_⟩
    · rw [top (by omega), held.slot _ (by omega), getD_snoc, if_pos depth.symm]
    · -- the slot that was read is cleared: beyond the list there is zero again
      rw [slots i hi, depth]
      split
      · rename_i last
        rw [List.getD_eq_getElem?_getD, List.getElem?_eq_none (by omega)]
        rfl
      · rename_i other
        rw [held.slot i hi, getD_snoc, if_neg other]

theorem pop_nil (held : k.Holds []) : k.pop = .error .stackUnderflow :=
  pop_eq_error_iff.mpr ⟨held.depth, rfl⟩

/-- A stack and its list give the same answer to a use, and belong together after it. -/
theorem onStack (held : k.Holds l) (u : Use) :
    (Use.onStack k u).1 = (Use.onList l u).1 ∧ (Use.onStack k u).2.Holds (Use.onList l u).2 := by
  have bound := held.length_le
  cases u with
  | push address =>
    by_cases room : l.length < 16
    · obtain ⟨k', pushed, held'⟩ := held.push room address
      rw [Use.onStack, Use.onList, pushed, if_pos room]
      exact ⟨rfl, held'⟩
    · have refused := held.push_full (by omega) address
      rw [Use.onStack, Use.onList, refused, if_neg room]
      exact ⟨rfl, held⟩
  | pop =>
    rcases List.eq_nil_or_concat l with rfl | ⟨rest, b, rfl⟩
    · rw [Use.onStack, Use.onList, held.pop_nil, List.getLast?_nil]
      exact ⟨rfl, held⟩
    · rw [List.concat_eq_append] at held ⊢
      obtain ⟨a, k', popped, rfl, held'⟩ := held.pop
      rw [Use.onStack, Use.onList, popped, List.getLast?_concat, List.dropLast_concat]
      exact ⟨rfl, held'⟩

/-! ## One use after the other -/

theorem run : ∀ (us : List Use) {k : CallStack} {l : List Nat}, k.Holds l →
    (Use.run Use.onStack k us).1 = (Use.run Use.onList l us).1 ∧
      (Use.run Use.onStack k us).2.Holds (Use.run Use.onList l us).2 := by
  intro us
  induction us with
  | nil => intro k l held; exact ⟨rfl, held⟩
  | cons u rest ih =>
    intro k l held
    obtain ⟨same, held'⟩ := held.onStack u
    obtain ⟨answers, last⟩ := ih held'
    refine ⟨?_, last⟩
    simp only [Use.run]
    rw [same, answers]

end Holds

/-- A refused use leaves slots and depth alone. -/
theorem onStack_of_refused {k : CallStack} {u : Use} {kind : FaultKind}
    (refused : (Use.onStack k u).1 = .error kind) : (Use.onStack k u).2 = k := by
  cases u with
  | push address =>
    rw [Use.onStack] at refused ⊢
    split at refused
    · cases refused
    · rfl
  | pop =>
    rw [Use.onStack] at refused ⊢
    split at refused
    · cases refused
    · rfl

/-- **A call stack is a list of at most sixteen addresses.**  Any uses of an empty stack have the answers
    that they have on an empty list, and leave a stack that holds what they leave of the list and zeros.
    So at every point a push cuts its address down to twelve bits and appends it, or is refused with the
    sixteenth in place; a pop removes the last address and answers with it, or is refused without one;
    and a refusal changes nothing.  Other uses that leave the same list leave the same stack. -/
theorem used_as_list (us : List Use) :
    let k := (Use.run Use.onStack empty us).2
    let l := (Use.run Use.onList [] us).2
    (Use.run Use.onStack empty us).1 = (Use.run Use.onList [] us).1 ∧
      k.Holds l ∧ l.length ≤ 16 ∧
      (∀ a, l.length < 16 → ∃ k', k.push a = .ok k' ∧ k'.Holds (l ++ [(a % 4096).toNat])) ∧
      (∀ a, l.length = 16 → k.push a = .error .stackOverflow) ∧
      (∀ rest b, l = rest ++ [b] → ∃ a k', k.pop = .ok (a, k') ∧ a.toNat = b ∧ k'.Holds rest) ∧
      (l = [] → k.pop = .error .stackUnderflow) ∧
      (∀ u kind, (Use.onStack k u).1 = .error kind → (Use.onStack k u).2 = k) ∧
      ∀ us', (Use.run Use.onList [] us').2 = l → (Use.run Use.onStack empty us').2 = k := by
  intro k l
  obtain ⟨answers, held⟩ := Holds.run us Holds.empty
  refine ⟨answers, held, held.length_le, fun a room => held.push room a,
    fun a full => held.push_full full a, ?_, ?_, fun _ _ => onStack_of_refused, ?_⟩
  · intro rest b last
    exact Holds.pop (last ▸ held)
  · intro none
    exact Holds.pop_nil (none ▸ held)
  · intro us' same
    have held' := (Holds.run us' Holds.empty).2
    rw [same] at held'
    exact held'.unique held

/-- Seventeen addresses of all ones: the last is refused.  A pop and a push of the same twelve bits leave
    the stack that was there. -/
theorem used_as_list_when_full :
    let pushes := List.replicate 17 (Use.push (-1))
    let k := (Use.run Use.onStack empty pushes).2
    (Use.run Use.onList [] pushes).2 = List.replicate 16 0xFFF ∧
      k.push 0x200 = .error .stackOverflow ∧
      (Use.run Use.onStack empty (pushes ++ [.pop, .push 0x7FFF])).2 = k := by
  intro pushes k
  have full : (Use.run Use.onList [] pushes).2 = List.replicate 16 0xFFF := by decide
  obtain ⟨-, -, -, -, refused, -, -, -, same⟩ := used_as_list pushes
  refine ⟨full, refused 0x200 ?_, same _ ?_⟩
  · rw [full]
    rfl
  · rw [full]
    decide

end Chip8.CallStack
