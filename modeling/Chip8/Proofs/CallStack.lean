/-
  The call stack, slot by slot.

  `push` and `pop` fail in one way each: a stack with every slot in use takes no address, a stack
  without any gives none.  When they succeed they move the depth by one and touch a SINGLE slot, the
  one that the depth moves across; `push_eq_ok` and `pop_eq_ok` say what it holds afterwards, and that
  is all that the proofs about machines need to know.

  A stack is `Tidy` when the slots in use hold addresses and the free ones zero.  Both operations keep
  it so, and what comes off a tidy stack is an address.
-/
import Chip8.Machine.CallStack

namespace Chip8.CallStack

/-! ## When an operation is refused -/

theorem push_eq_error_iff {k : CallStack} {a : Int} {kind : FaultKind} :
    k.push a = .error kind ↔ k.depth = 16 ∧ kind = .stackOverflow := by
  have bound := k.depth_le
  unfold push
  split
  · rename_i room
    constructor
    · intro h; cases h
    · rintro ⟨full, -⟩; omega
  · rename_i room
    constructor
    · intro h; cases h; exact ⟨by omega, rfl⟩
    · rintro ⟨-, rfl⟩; rfl

theorem pop_eq_error_iff {k : CallStack} {kind : FaultKind} :
    k.pop = .error kind ↔ k.depth = 0 ∧ kind = .stackUnderflow := by
  unfold pop
  split
  · rename_i used
    constructor
    · intro h; cases h
    · rintro ⟨empty, -⟩; omega
  · rename_i used
    constructor
    · intro h; cases h; exact ⟨by omega, rfl⟩
    · rintro ⟨-, rfl⟩; rfl

/-! ## What an operation changes -/

/-- A slot holds the low twelve bits of the address that was pushed. -/
theorem toNat_slot (a : Int) : ((UInt16.ofNat (Address.ofInt a).val).toNat : Int) = a % 4096 := by
  have value := Address.val_ofInt a
  have bound := (Address.ofInt a).isLt
  rw [UInt16.toNat_ofNat', Nat.mod_eq_of_lt (by omega)]
  exact value

/-- A push fills the first free slot and leaves the others alone. -/
theorem push_eq_ok {k k' : CallStack} {a : Int} (h : k.push a = .ok k') :
    k'.depth = k.depth + 1 ∧ ∀ i : Nat, ∀ hi : i < 16,
      k'.slots[i] = if k.depth = i then UInt16.ofNat (Address.ofInt a).val else k.slots[i] := by
  unfold push at h
  split at h
  · rename_i room
    cases h
    exact ⟨rfl, fun i hi => Vector.getElem_set room hi⟩
  · cases h

/-- A pop reads the last slot in use, sets it to zero and leaves the others alone. -/
theorem pop_eq_ok {k k' : CallStack} {a : UInt16} (h : k.pop = .ok (a, k')) :
    k.depth = k'.depth + 1 ∧ (∀ hi : k'.depth < 16, a = k.slots[k'.depth]) ∧
      ∀ i : Nat, ∀ hi : i < 16, k'.slots[i] = if k'.depth = i then 0 else k.slots[i] := by
  unfold pop at h
  split at h
  · rename_i used
    have bound := k.depth_le
    cases h
    refine ⟨?_, fun _ => rfl, fun i hi => Vector.getElem_set (by omega) hi⟩
    show k.depth = k.depth - 1 + 1
    omega
  · cases h

/-- A pop takes the last of the addresses in use. -/
theorem toList_of_pop {k k' : CallStack} {a : UInt16} (h : k.pop = .ok (a, k')) :
    k.toList = k'.toList ++ [a] := by
  obtain ⟨depth, top, slots⟩ := pop_eq_ok h
  have bound := k.depth_le
  have last : k'.depth < k.slots.toList.length := by rw [Vector.length_toList]; omega
  have below : k.slots.toList.take k'.depth = k'.slots.toList.take k'.depth := by
    apply List.ext_getElem
    · simp only [List.length_take, Vector.length_toList]
    · intro i hi _
      rw [List.length_take] at hi
      rw [List.getElem_take, List.getElem_take, Vector.getElem_toList, Vector.getElem_toList,
        slots i (by omega), if_neg (by omega)]
  rw [toList, toList, depth, List.take_succ_eq_append_getElem last, below, Vector.getElem_toList,
    top (by omega)]

/-- Stacks of equal depth that agree in every slot are equal. -/
theorem eq_of_slots {k l : CallStack} (depth : k.depth = l.depth)
    (slots : ∀ i : Nat, ∀ hi : i < 16, k.slots[i] = l.slots[i]) : k = l := by
  obtain ⟨a, m, hm⟩ := k
  obtain ⟨b, n, hn⟩ := l
  obtain rfl : m = n := depth
  obtain rfl : a = b := Vector.ext slots
  rfl

/-! ## Tidy stacks -/

/-- The slots in use hold addresses, the free ones zero. -/
structure Tidy (k : CallStack) : Prop where
  used : ∀ i : Nat, ∀ hi : i < 16, i < k.depth → k.slots[i].toNat ≤ 0xFFF
  free : ∀ i : Nat, ∀ hi : i < 16, k.depth ≤ i → k.slots[i] = 0

theorem tidy_empty : empty.Tidy where
  used i _ h := absurd h (Nat.not_lt_zero i)
  free _ hi _ := Vector.getElem_replicate hi

theorem Tidy.push {k k' : CallStack} {a : Int} (tidy : k.Tidy) (h : k.push a = .ok k') :
    k'.Tidy := by
  obtain ⟨depth, slots⟩ := push_eq_ok h
  constructor
  · intro i hi below
    rw [slots i hi]
    split
    · have := toNat_slot a; omega
    · exact tidy.used i hi (by omega)
  · intro i hi above
    rw [slots i hi, if_neg (by omega)]
    exact tidy.free i hi (by omega)

theorem Tidy.pop {k k' : CallStack} {a : UInt16} (tidy : k.Tidy) (h : k.pop = .ok (a, k')) :
    k'.Tidy := by
  obtain ⟨depth, -, slots⟩ := pop_eq_ok h
  constructor
  · intro i hi below
    rw [slots i hi, if_neg (by omega)]
    exact tidy.used i hi (by omega)
  · intro i hi above
    rw [slots i hi]
    split
    · rfl
    · exact tidy.free i hi (by omega)

/-- What comes off a tidy stack is an address. -/
theorem Tidy.top_le {k k' : CallStack} {a : UInt16} (tidy : k.Tidy) (h : k.pop = .ok (a, k')) :
    a.toNat ≤ 0xFFF := by
  obtain ⟨depth, top, -⟩ := pop_eq_ok h
  have bound := k.depth_le
  rw [top (by omega)]
  exact tidy.used _ _ (by omega)

end Chip8.CallStack
