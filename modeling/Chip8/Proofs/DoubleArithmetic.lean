/-
  Arithmetic in doubles.

  The results of the operations are the rounded ones of exact arithmetic (`rounds_add`, `rounds_sub`,
  `rounds_mul`, `rounds_div`, `rounds_ofInt`); each shows that enough places of the exact result are known
  before it is rounded.  What is no number, or infinite, has rules of its own.
-/
import Chip8.Proofs.Rounding

namespace Chip8.Double

open Float.Model (Format UnpackedFloat totalExponent)
open Float.Model.UnpackedFloat

variable {m n : Nat} {e : Int} {x y : Float} {q w X Y : ℚ} {u v : UnpackedFloat}

/-! ## Rounding at any place -/

theorem scaled_shiftLeft (m : Nat) (e : Int) (k : Nat) : scaled (m <<< k) (e - k) = scaled m e := by
  rw [Nat.shiftLeft_eq, ← scaled_add, sub_add_cancel]

theorem log2_shiftLeft (pos : 0 < m) : ∀ k : Nat, (m <<< k).log2 = m.log2 + k := by
  intro k
  rw [Nat.shiftLeft_eq, Nat.log2_eq_iff (by positivity)]
  have low := Nat.log2_self_le pos.ne'
  have high := Nat.lt_log2_self (n := m)
  constructor
  · rw [pow_add]
    exact Nat.mul_le_mul_right _ low
  · rw [Nat.add_right_comm, pow_add]
    exact Nat.mul_lt_mul_of_pos_right high (by positivity)

/-- A number with any exponent is brought to the place of a double, and rounded if it is too long. -/
theorem rounds_round (s : Sign) (pos : 0 < m) (e : Int) :
    Rounds (signed (negates s) (scaled m e))
      (.ofModel (.pack (UnpackedFloat.round Format.binary64 s m e))) := by
  rw [UnpackedFloat.round, decreaseExponent, targetExponent_total]
  generalize shift : (e - max ((m.log2 : Int) + e - 52) (-1074)).toNat = k
  rw [← scaled_shiftLeft m e k]
  refine rounds_roundWithAccuracy s (brackets_exact _) ?_
  by_cases low : e - (k : Int) ≤ -1074
  · exact Or.inr low
  · left
    refine (Nat.le_log2 (k := 52) ?_).mp ?_
    · exact (Nat.shiftLeft_pos_iff.mpr pos).ne'
    · rw [log2_shiftLeft pos]
      omega

theorem rounds_normalize (n : ℤ) (e : Int) (s : Sign) :
    Rounds (n * 2 ^ e) (.ofModel (.pack (UnpackedFloat.normalize Format.binary64 n e s))) := by
  rw [UnpackedFloat.normalize]
  rcases lt_trichotomy n 0 with lt | rfl | gt
  · rw [compare_lt_iff_lt.mpr lt]
    have magnitude : ((-n).toNat : ℚ) = -n := by
      exact_mod_cast Int.toNat_of_nonneg (by omega : 0 ≤ -n)
    have rounds := rounds_round .negative (m := (-n).toNat) (by omega) e
    rwa [scaled, magnitude, negates, signed, if_pos rfl, neg_mul, neg_neg] at rounds
  · rw [compare_eq_iff_eq.mpr rfl, Int.cast_zero, zero_mul]
    exact rounds_pack (packable_zero s) (number?_zero s)
  · rw [compare_gt_iff_gt.mpr gt]
    have magnitude : ((n.toNat : ℕ) : ℚ) = n := by
      exact_mod_cast Int.toNat_of_nonneg gt.le
    have rounds := rounds_round .positive (m := n.toNat) (by omega) e
    rwa [scaled, magnitude, negates, signed, if_neg Bool.false_ne_true] at rounds

/-! ## Opposites -/

theorem Packable.neg (packable : Packable u) : Packable u.neg := by
  cases u with
  | notANumber => exact packable
  | infinity s => rintro negative m e ⟨⟩
  | zero s => exact packable_zero _
  | finite s m e pos =>
    rintro negative m' e' ⟨⟩
    exact packable _ m e rfl

theorem number?_neg (number : (unpacked u).number? = some X) : (unpacked u.neg).number? = some (-X) := by
  rcases number?_cases number with ⟨s, rfl, rfl⟩ | ⟨s, m, e, pos, rfl, rfl⟩
  · rw [neg_zero]
    exact number?_zero (-s)
  · cases s
    · exact congrArg some (neg_neg _).symm
    · rfl

theorem standsFor_neg (number : StandsFor x X) : StandsFor (-x) (-X) := by
  rw [StandsFor, value_eq_unpacked] at number
  show StandsFor (.ofModel (.pack x.toModel.unpack.neg)) (-X)
  rw [StandsFor, value_pack (packable_toModel x).neg]
  exact number?_neg number

/-- The opposite of a rounded number is the rounded opposite. -/
theorem rounds_neg (rounds : Rounds q x) : Rounds (-q) (-x) := by
  rcases rounds with ⟨r, number, faithful⟩ | ⟨infinite, beyond⟩
  · exact Or.inl ⟨-r, standsFor_neg number, faithful.neg⟩
  · right
    have nonzero : q ≠ 0 := by
      rintro rfl
      exact lt_irrefl _ (beyond 0 representable_zero)
    obtain ⟨s, form, sign⟩ := unpack_of_infinite infinite
    have opposite : negates (-s) = decide (-q < 0) := by
      rcases lt_or_gt_of_ne nonzero with lt | gt
      · rw [decide_eq_true lt] at sign
        rw [decide_eq_false (not_lt_of_gt (neg_pos_of_neg lt))]
        cases s
        · rfl
        · cases sign
      · rw [decide_eq_false (not_lt_of_gt gt)] at sign
        rw [decide_eq_true (neg_neg_of_pos gt)]
        cases s
        · cases sign
        · rfl
    refine ⟨?_, by rwa [abs_neg]⟩
    show value (.ofModel (.pack x.toModel.unpack.neg)) = _
    rw [form, UnpackedFloat.neg, value_pack_infinity, opposite]

/-! ## Sums and differences -/

/-- A mantissa that is brought to a smaller exponent, with its sign. -/
theorem apply_shiftLeft (s : Sign) (m : Nat) {e f : Int} (le : f ≤ e) :
    ((s.apply ((m <<< (e - f).toNat : ℕ) : ℤ) : ℤ) : ℚ) * 2 ^ f = signed (negates s) (scaled m e) := by
  obtain ⟨k, rfl⟩ : ∃ k : Nat, e = f + k := ⟨(e - f).toNat, by omega⟩
  have whole : scaled m (f + k) = ((m <<< k : ℕ) : ℚ) * 2 ^ f := by
    rw [scaled_add, Nat.shiftLeft_eq]
    rfl
  rw [add_sub_cancel_left, Int.toNat_natCast, whole]
  cases s
  · show ((-((m <<< k : ℕ) : ℤ) : ℤ) : ℚ) * 2 ^ f = -(((m <<< k : ℕ) : ℚ) * 2 ^ f)
    rw [Int.cast_neg, Int.cast_natCast, neg_mul]
  · rfl

theorem rounds_pack_add (packable : Packable u) (number : (unpacked u).number? = some X)
    (packable' : Packable v) (number' : (unpacked v).number? = some Y) :
    Rounds (X + Y) (.ofModel (.pack (UnpackedFloat.add Format.binary64 u v))) := by
  rcases number?_cases number with ⟨s, rfl, rfl⟩ | ⟨s, m, e, pos, rfl, rfl⟩ <;>
    rcases number?_cases number' with ⟨s', rfl, rfl⟩ | ⟨s', m', e', pos', rfl, rfl⟩
  · rw [add_zero, UnpackedFloat.add]
    split
    · exact rounds_pack (packable_zero _) (number?_zero _)
    · exact rounds_pack (packable_zero _) (number?_zero _)
  · rw [zero_add]
    exact rounds_pack packable' number'
  · rw [add_zero]
    exact rounds_pack packable number
  · have rounds := rounds_normalize (s.apply ((m <<< (e - min e e').toNat : ℕ) : ℤ) +
      s'.apply ((m' <<< (e' - min e e').toNat : ℕ) : ℤ)) (min e e') .positive
    rwa [Int.cast_add, add_mul, apply_shiftLeft s m (min_le_left e e'),
      apply_shiftLeft s' m' (min_le_right e e')] at rounds

/-- **Sums** are rounded. -/
theorem rounds_add (number : StandsFor x X) (number' : StandsFor y Y) : Rounds (X + Y) (x + y) := by
  rw [StandsFor, value_eq_unpacked] at number number'
  exact rounds_pack_add (packable_toModel x) number (packable_toModel y) number'

/-- Taking away is adding the opposite, also in unpacked form. -/
theorem sub_eq_add_neg_unpacked (u v : UnpackedFloat) :
    UnpackedFloat.sub Format.binary64 u v = UnpackedFloat.add Format.binary64 u v.neg := by
  cases u with
  | finite s m e pos =>
    cases v with
    | finite s' m' e' pos' =>
      have opposite : (-s').apply (m' <<< (e' - min e e').toNat : ℕ) =
          -s'.apply (m' <<< (e' - min e e').toNat : ℕ) := by
        cases s'
        · exact (neg_neg _).symm
        · rfl
      simp only [UnpackedFloat.sub, UnpackedFloat.neg, UnpackedFloat.add, decreaseExponent]
      rw [opposite, Int.sub_eq_add_neg]
    | _ => rfl
  | _ => cases v <;> rfl

/-- **Differences** are rounded. -/
theorem rounds_sub (number : StandsFor x X) (number' : StandsFor y Y) : Rounds (X - Y) (x - y) := by
  rw [StandsFor, value_eq_unpacked] at number number'
  have rounds := rounds_pack_add (packable_toModel x) number (packable_toModel y).neg
    (number?_neg number')
  rw [← sub_eq_add_neg_unpacked, ← sub_eq_add_neg] at rounds
  exact rounds

/-! ## Products -/

theorem signed_mul (s s' : Sign) (q r : ℚ) :
    signed (negates (s * s')) (q * r) = signed (negates s) q * signed (negates s') r := by
  cases s <;> cases s'
  · exact (neg_mul_neg q r).symm
  · exact (neg_mul q r).symm
  · exact (mul_neg q r).symm
  · rfl

/-- Mantissas of which one is full have a product that is full. -/
theorem full_mul {m' : Nat} (pos : 0 < m) (pos' : 0 < m') (full : fullMantissa ≤ m ∨ fullMantissa ≤ m') :
    fullMantissa ≤ m * m' := by
  rcases full with full | full
  · exact full.trans (Nat.le_mul_of_pos_right m pos')
  · exact full.trans (Nat.le_mul_of_pos_left m' pos)

theorem rounds_pack_mul (packable : Packable u) (number : (unpacked u).number? = some X)
    (packable' : Packable v) (number' : (unpacked v).number? = some Y) :
    Rounds (X * Y) (.ofModel (.pack (UnpackedFloat.mul Format.binary64 u v))) := by
  rcases number?_cases number with ⟨s, rfl, rfl⟩ | ⟨s, m, e, pos, rfl, rfl⟩ <;>
    rcases number?_cases number' with ⟨s', rfl, rfl⟩ | ⟨s', m', e', pos', rfl, rfl⟩
  · rw [zero_mul]
    exact rounds_pack (packable_zero _) (number?_zero _)
  · rw [zero_mul]
    exact rounds_pack (packable_zero _) (number?_zero _)
  · rw [mul_zero]
    exact rounds_pack (packable_zero _) (number?_zero _)
  · have full := (packable _ m e rfl).1.full
    have full' := (packable' _ m' e' rfl).1.full
    have enough : fullMantissa ≤ m * m' ∨ e + e' ≤ -1074 := by
      by_cases one : fullMantissa ≤ m ∨ fullMantissa ≤ m'
      · exact Or.inl (full_mul pos pos' one)
      · omega
    have rounds := rounds_roundWithAccuracy (s * s') (brackets_exact (m * m')) enough
    have product : ((m * m' : ℕ) : ℚ) * 2 ^ (e + e') = scaled m e * scaled m' e' := by
      rw [scaled, scaled, Nat.cast_mul, zpow_add₀ two_ne_zero, mul_mul_mul_comm]
    rwa [product, signed_mul] at rounds

/-- **Products** are rounded. -/
theorem rounds_mul (number : StandsFor x X) (number' : StandsFor y Y) : Rounds (X * Y) (x * y) := by
  rw [StandsFor, value_eq_unpacked] at number number'
  exact rounds_pack_mul (packable_toModel x) number (packable_toModel y) number'

/-! ## Quotients -/

theorem signed_div (s s' : Sign) (q r : ℚ) :
    signed (negates (s / s')) (q / r) = signed (negates s) q / signed (negates s') r := by
  cases s <;> cases s'
  · exact (neg_div_neg_eq q r).symm
  · exact (neg_div r q).symm
  · exact (div_neg q).symm
  · rfl

theorem brackets_fraction {d : Nat} (pos : 0 < d) (m : Nat) :
    Brackets (.ofMantissaAndAccuracy (m / d) (accuracyOfFraction (m % d) d)) (m / d) := by
  have pos : (0 : ℚ) < d := by exact_mod_cast pos
  have parts : (m : ℚ) = (m / d : ℕ) * d + (m % d : ℕ) := by
    exact_mod_cast (Nat.div_add_mod' m d).symm
  have short : ((m % d : ℕ) : ℚ) < d := by exact_mod_cast Nat.mod_lt m (by exact_mod_cast pos)
  refine ⟨?_, ?_, ?_⟩
  · rw [mantissa_ofMantissaAndAccuracy, le_div_iff₀ pos, parts]
    exact le_add_of_nonneg_right (Nat.cast_nonneg _)
  · rw [mantissa_ofMantissaAndAccuracy, div_lt_iff₀ pos]
    linarith
  · rw [mantissa_ofMantissaAndAccuracy, lt_div_iff₀ pos, accuracyOfFraction]
    by_cases divides : m % d = 0
    · rw [if_pos divides]
      rintro (lost | lost) <;> cases lost
    · intro _
      have left : (0 : ℚ) < (m % d : ℕ) := by exact_mod_cast Nat.pos_of_ne_zero divides
      linarith

/-- A quotient is formed with as many places as the mantissa of a double has. -/
theorem full_div {m' k : Nat} (pos : 0 < m) (pos' : 0 < m') (places : m'.log2 + 53 ≤ m.log2 + k) :
    fullMantissa ≤ (m <<< k) / m' := by
  rw [Nat.le_div_iff_mul_le pos', Nat.shiftLeft_eq]
  calc fullMantissa * m' ≤ 2 ^ 52 * 2 ^ (m'.log2 + 1) :=
        Nat.mul_le_mul_left _ Nat.lt_log2_self.le
    _ = 2 ^ (m'.log2 + 53) := by
        rw [← pow_add]
        congr 1
        omega
    _ ≤ 2 ^ (m.log2 + k) := Nat.pow_le_pow_right two_pos places
    _ = 2 ^ m.log2 * 2 ^ k := pow_add 2 _ _
    _ ≤ m * 2 ^ k := Nat.mul_le_mul_right _ (Nat.log2_self_le pos.ne')

theorem rounds_pack_div (number : (unpacked u).number? = some X)
    (number' : (unpacked v).number? = some Y) (nonzero : Y ≠ 0) :
    Rounds (X / Y) (.ofModel (.pack (UnpackedFloat.div Format.binary64 u v))) := by
  obtain ⟨s', m', e', pos', rfl, rfl⟩ := (number?_cases number').resolve_left
    fun zero => nonzero zero.choose_spec.2
  rcases number?_cases number with ⟨s, rfl, rfl⟩ | ⟨s, m, e, pos, rfl, rfl⟩
  · rw [zero_div]
    exact rounds_pack (packable_zero _) (number?_zero _)
  · have target : Format.binary64.targetExponent (totalExponent m e - totalExponent m' e') =
        max ((m.log2 : Int) + e - (m'.log2 + e') - 53) (-1074) := by
      show max ((m.log2 : Int) + 1 + e - (m'.log2 + 1 + e') - 53) (-1074) = _
      congr 1
      omega
    simp only [UnpackedFloat.div, divCore, target]
    generalize place : min (e - e') (max ((m.log2 : Int) + e - (m'.log2 + e') - 53) (-1074)) = t
    generalize shift : (e - e' - t).toNat = k
    have enough : fullMantissa ≤ (m <<< k) / m' ∨ t ≤ -1074 := by
      by_cases low : t ≤ -1074
      · exact Or.inr low
      · exact Or.inl (full_div pos pos' (by omega))
    have rounds := rounds_roundWithAccuracy (s / s') (brackets_fraction pos' (m <<< k)) enough
    have quotient : ((m <<< k : ℕ) : ℚ) / m' * 2 ^ t = scaled m e / scaled m' e' := by
      have exponent : e - e' - (k : Int) = t := by omega
      rw [← exponent, scaled, scaled, Nat.shiftLeft_eq, zpow_sub₀ two_ne_zero, zpow_sub₀ two_ne_zero,
        zpow_natCast]
      push_cast
      field_simp
    rwa [quotient, signed_div] at rounds

/-- **Quotients** are rounded. -/
theorem rounds_div (number : StandsFor x X) (number' : StandsFor y Y) (nonzero : Y ≠ 0) :
    Rounds (X / Y) (x / y) := by
  rw [StandsFor, value_eq_unpacked] at number number'
  exact rounds_pack_div number number' nonzero

/-! ## Whole numbers -/

theorem rounds_toFloat (n : UInt64) : Rounds n.toNat n.toFloat := by
  have rounds := rounds_normalize n.toNat 0 .positive
  rw [zpow_zero, mul_one, Int.cast_natCast] at rounds
  exact rounds

theorem standsFor_bits_of_one : StandsFor (.ofBits 0x3FF0000000000000) 1 := by
  have one : value (.ofBits 0x3FF0000000000000) = .finite false fullMantissa (-52) := by decide +kernel
  exact standsFor_of_value one (by norm_num [signed, scaled, fullMantissa])

/-- Numbers of up to 53 bits take a way of their own, by way of 64 bits. -/
theorem rounds_ofNat_of_short (short : n < 2 ^ 53) :
    Rounds n (n.toUInt64.toFloat * .ofBits 0x3FF0000000000000) := by
  have rounds := rounds_toFloat n.toUInt64
  rw [show n.toUInt64.toNat = n from Nat.mod_eq_of_lt (short.trans (by decide))] at rounds
  have small : |(n : ℚ)| ≤ |2 ^ (53 : ℤ)| := by
    rw [abs_of_nonneg (Nat.cast_nonneg n), abs_of_nonneg (by positivity)]
    exact_mod_cast short.le
  obtain ⟨r, number, faithful⟩ := rounds.number (representable_two_zpow (by decide) (by decide)) small
  have product := rounds_mul number standsFor_bits_of_one
  rw [mul_one] at product
  exact Or.inl ⟨r, product.standsFor number.representable, faithful⟩

/-- **Natural numbers** are rounded. -/
theorem rounds_ofNat (n : Nat) : Rounds n (Float.ofNat n) := by
  show Rounds n (Float.ofScientific n false 0)
  unfold Float.ofScientific
  split
  · rename_i short
    exact rounds_ofNat_of_short short.1
  · rename_i long
    have long : 2 ^ 53 ≤ n := by omega
    have full : fullMantissa ≤ n <<< 53 * 10 ^ 0 := by
      rw [pow_zero, mul_one, Nat.shiftLeft_eq]
      calc fullMantissa ≤ 2 ^ 53 := by decide
        _ ≤ n := long
        _ ≤ n * 2 ^ 53 := Nat.le_mul_of_pos_right n (by positivity)
    have whole : ((n <<< 53 * 10 ^ 0 : ℕ) : ℚ) * 2 ^ (-53 : ℤ) = n := by
      rw [pow_zero, mul_one, Nat.shiftLeft_eq]
      push_cast
      rw [mul_assoc]
      norm_num
    have rounds := rounds_roundWithAccuracy (e := -53) .positive
      (brackets_exact (n <<< 53 * 10 ^ 0)) (Or.inl full)
    rw [whole] at rounds
    have model : Float.Model.ofScientific n 0 = .pack (roundWithAccuracy Format.binary64 .positive
        (n <<< 53 * 10 ^ 0) (-53) .exact) := by
      have low : ¬ (0 : Int) < -((2 ^ 11 : Int) + n.log2) := by omega
      rw [Float.Model.ofScientific, UnpackedFloat.ofScientific, dif_neg (by omega), if_neg (by decide),
        if_neg low, if_pos (le_refl _)]
      rfl
    show Rounds n (.ofModel (Float.Model.ofScientific n 0))
    rwa [model]

/-- **Integers** are rounded. -/
theorem rounds_ofInt : ∀ n : ℤ, Rounds n (Float.ofInt n) := by
  intro n
  cases n with
  | ofNat n => exact rounds_ofNat n
  | negSucc n =>
    have rounds := rounds_neg (rounds_ofNat n.succ)
    rwa [← Int.cast_natCast, ← Int.cast_neg] at rounds

theorem standsFor_ofNat (representable : Representable n) : StandsFor (.ofNat n) n :=
  (rounds_ofNat n).standsFor representable

theorem standsFor_zero : StandsFor 0 0 := by
  have zero := standsFor_ofNat (n := 0) (by rw [Nat.cast_zero]; exact representable_zero)
  rwa [Nat.cast_zero] at zero

theorem standsFor_one : StandsFor 1 1 := by
  have one := standsFor_ofNat (n := 1)
    (by rw [Nat.cast_one]; exact representable_two_zpow (k := 0) (by decide) (by decide))
  rwa [Nat.cast_one] at one

/-! ## What is no number -/

theorem value_pack_nan : value (.ofModel (.pack .notANumber)) = .nan :=
  value_pack (by rintro negative m e ⟨⟩)

theorem nan_add (nan : value x = .nan) (y : Float) : value (x + y) = .nan := by
  show value (.ofModel (.pack (UnpackedFloat.add _ _ _))) = .nan
  rw [unpack_of_nan nan]
  exact value_pack_nan

theorem add_nan (x : Float) (nan : value y = .nan) : value (x + y) = .nan := by
  show value (.ofModel (.pack (UnpackedFloat.add _ _ _))) = .nan
  rw [unpack_of_nan nan]
  cases x.toModel.unpack <;> exact value_pack_nan

theorem nan_sub (nan : value x = .nan) (y : Float) : value (x - y) = .nan := by
  show value (.ofModel (.pack (UnpackedFloat.sub _ _ _))) = .nan
  rw [unpack_of_nan nan]
  exact value_pack_nan

theorem div_nan (x : Float) (nan : value y = .nan) : value (x / y) = .nan := by
  show value (.ofModel (.pack (UnpackedFloat.div _ _ _))) = .nan
  rw [unpack_of_nan nan]
  cases x.toModel.unpack <;> exact value_pack_nan

theorem not_nan_beq (nan : value x = .nan) (y : Float) : ¬ (x == y) = true := by
  show ¬ UnpackedFloat.beq _ _ = true
  rw [unpack_of_nan nan]
  exact Bool.false_ne_true

theorem not_lt_nan (x : Float) (nan : value y = .nan) : ¬ x < y := by
  rw [lt_iff_compare, unpack_of_nan nan]
  cases x.toModel.unpack <;> exact Bool.false_ne_true

/-! ## Infinities -/

theorem lt_infinite (number : StandsFor x X) (infinite : value y = .infinite false) : x < y := by
  rw [lt_iff_compare, unpack_of_plus_infinite infinite]
  rcases number.unpack_cases with ⟨s, zero, -⟩ | ⟨s, m, e, pos, finite, -⟩
  · rw [zero]
    rfl
  · rw [finite]
    cases s <;> rfl

theorem infinite_le (infinite : value x = .infinite true) (number : StandsFor y Y) : x ≤ y := by
  obtain ⟨s, form, sign⟩ := unpack_of_infinite infinite
  rw [le_iff_compare, form]
  cases s
  · rcases number.unpack_cases with ⟨s, zero, -⟩ | ⟨s, m, e, pos, finite, -⟩
    · rw [zero]
      rfl
    · rw [finite]
      rfl
  · cases sign

theorem add_infinite (number : StandsFor x X) (infinite : value y = .infinite false) :
    value (x + y) = .infinite false := by
  show value (.ofModel (.pack (UnpackedFloat.add _ _ _))) = .infinite false
  rw [unpack_of_plus_infinite infinite]
  rcases number.unpack_cases with ⟨s, zero, -⟩ | ⟨s, m, e, pos, finite, -⟩
  · rw [zero]
    exact value_pack_infinity .positive
  · rw [finite]
    exact value_pack_infinity .positive

theorem infinite_mul (infinite : value x = .infinite false) (number : StandsFor y Y) (positive : 0 < Y) :
    value (x * y) = .infinite false := by
  show value (.ofModel (.pack (UnpackedFloat.mul _ _ _))) = .infinite false
  rw [unpack_of_plus_infinite infinite]
  rcases number.unpack_cases with ⟨s, -, rfl⟩ | ⟨s, m, e, pos, finite, rfl⟩
  · exact absurd positive (lt_irrefl 0)
  · rw [finite]
    cases s
    · exact absurd (scaled_nonneg m e) (not_le_of_gt (neg_pos.mp positive))
    · exact value_pack_infinity .positive

theorem div_infinite (number : StandsFor x X) (infinite : value y = .infinite false) :
    StandsFor (x / y) 0 := by
  have zero : ∀ s, StandsFor (.ofModel (.pack (.zero s))) 0 := by
    intro s
    rw [StandsFor, value_pack (packable_zero s)]
    exact number?_zero s
  show StandsFor (.ofModel (.pack (UnpackedFloat.div _ _ _))) 0
  rw [unpack_of_plus_infinite infinite]
  rcases number.unpack_cases with ⟨s, form, -⟩ | ⟨s, m, e, pos, finite, -⟩
  · rw [form]
    exact zero _
  · rw [finite]
    exact zero _

/-! ## Bounds -/

theorem AtLeast.add (number : StandsFor x X) (least : AtLeast 0 y) (representable : Representable w)
    (le : w ≤ X) : AtLeast w (x + y) := by
  rcases least with infinite | ⟨r, number', nonneg⟩
  · exact Or.inl (add_infinite number infinite)
  · exact (rounds_add number number').atLeast representable (by linarith)

theorem AtLeast.mul (least : AtLeast 0 x) (number : StandsFor y Y) (positive : 0 < Y) :
    AtLeast 0 (x * y) := by
  rcases least with infinite | ⟨r, number', nonneg⟩
  · exact Or.inl (infinite_mul infinite number positive)
  · exact (rounds_mul number' number).atLeast representable_zero (mul_nonneg nonneg positive.le)

/-- What is at least a positive fraction is not zero. -/
theorem AtLeast.not_beq_zero (least : AtLeast w x) (positive : 0 < w) : ¬ (x == 0) = true := by
  rcases least with infinite | ⟨r, number, le⟩
  · show ¬ UnpackedFloat.beq _ _ = true
    rw [unpack_of_plus_infinite infinite]
    decide +kernel
  · rw [number.beq_iff standsFor_zero]
    exact (positive.trans_le le).ne'

end Chip8.Double
