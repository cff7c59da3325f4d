/-
  Rounding to a double.

  A result is computed exactly, as a mantissa with two bits for all that lies below it, shifted to the place
  that a double has for it, and rounded there.  What the two bits have to know is little: where the exact
  number lies between two mantissas (`Brackets`), and that a bit is only set if it lies strictly between them.
  Shifting preserves that, one place at a time.

  From this follows what is used of rounding, `Faithful`: the exact number and the rounded one are on the same
  side of every double.  A double with the same or a larger exponent is a whole number of last places, and one
  with a smaller exponent is below the mantissa before it was rounded (`scaled_rounded`).  Which of the two
  neighbours is taken has no say.
-/
import Chip8.Proofs.Doubles

namespace Chip8.Double

open Float.Model (Format UnpackedFloat totalExponent)
open Float.Model.UnpackedFloat

variable {m n : Nat} {e : Int} {em : ExtendedMantissa} {a : Accuracy} {x : Float} {q r w : ℚ}
  {u : UnpackedFloat}

/-! ## Rounded mantissas -/

/-- Where the exact number lies that a mantissa and the two bits below it come from. -/
structure Brackets (em : ExtendedMantissa) (q : ℚ) : Prop where
  le : em.mantissa ≤ q
  lt : q < em.mantissa + 1
  /-- A bit is only set if something is lost. -/
  lost : em.roundBit = true ∨ em.stickyBit = true → em.mantissa < q

theorem Brackets.shiftRightOne (h : Brackets em q) : Brackets em.shiftRightOne (q / 2) := by
  have parts : (em.mantissa : ℚ) = 2 * (em.mantissa / 2 : ℕ) + (em.mantissa % 2 : ℕ) := by
    exact_mod_cast (Nat.div_add_mod em.mantissa 2).symm
  have le := h.le
  have lt := h.lt
  have bit : ((em.mantissa % 2 : ℕ) : ℚ) ≤ 1 := by
    exact_mod_cast Nat.le_of_lt_succ (Nat.mod_lt em.mantissa two_pos)
  have nonneg : (0 : ℚ) ≤ (em.mantissa % 2 : ℕ) := Nat.cast_nonneg _
  refine ⟨?_, ?_, ?_⟩
  · show ((em.mantissa / 2 : ℕ) : ℚ) ≤ q / 2
    linarith
  · show q / 2 < ((em.mantissa / 2 : ℕ) : ℚ) + 1
    linarith
  · show (em.mantissa % 2 != 0) = true ∨ (em.roundBit || em.stickyBit) = true →
      ((em.mantissa / 2 : ℕ) : ℚ) < q / 2
    rintro (odd | earlier)
    · have odd : em.mantissa % 2 = 1 := by
        rw [bne_iff_ne] at odd
        omega
      rw [odd, Nat.cast_one] at parts
      linarith
    · have := h.lost (Bool.or_eq_true_iff.mp earlier)
      linarith

theorem Brackets.shiftRight (h : Brackets em q) : ∀ k : Nat, Brackets (em >>> k) (q / 2 ^ k) := by
  intro k
  induction k with
  | zero =>
    rw [pow_zero, div_one]
    exact h
  | succ k ih =>
    rw [pow_succ, ← div_div]
    exact ih.shiftRightOne

theorem Brackets.rounded_cases (h : Brackets em q) :
    em.roundedMantissa = em.mantissa ∨ em.roundedMantissa = em.mantissa + 1 ∧ em.mantissa < q := by
  have lost := h.lost
  rcases em with ⟨m, _ | _, _ | _⟩
  · exact Or.inl rfl
  · exact Or.inl rfl
  · have lt := lost (Or.inl rfl)
    have parity : m % 2 = 0 ∨ m % 2 = 1 := Nat.mod_two_eq_zero_or_one m
    show m + m % 2 = m ∨ m + m % 2 = m + 1 ∧ _
    rcases parity with even | odd
    · exact Or.inl (by rw [even, Nat.add_zero])
    · exact Or.inr ⟨by rw [odd], lt⟩
  · exact Or.inr ⟨rfl, lost (Or.inl rfl)⟩

/-- Rounding does not go beyond a whole number. -/
theorem Brackets.rounded_le (h : Brackets em q) (le : q ≤ n) : em.roundedMantissa ≤ n := by
  rcases h.rounded_cases with same | ⟨up, lt⟩
  · rw [same]
    exact_mod_cast h.le.trans le
  · rw [up]
    exact_mod_cast lt.trans_le le

theorem Brackets.le_rounded (h : Brackets em q) (le : n ≤ q) : n ≤ em.roundedMantissa := by
  have below : n ≤ em.mantissa := by
    have := le.trans_lt h.lt
    exact Nat.le_of_lt_succ (by exact_mod_cast this)
  rcases h.rounded_cases with same | ⟨up, -⟩ <;> omega

theorem mantissa_shiftRight (em : ExtendedMantissa) :
    ∀ k : Nat, (em >>> k).mantissa = em.mantissa / 2 ^ k := by
  intro k
  induction k with
  | zero => exact (Nat.div_one _).symm
  | succ k ih =>
    show (em >>> k).mantissa / 2 = _
    rw [ih, Nat.div_div_eq_div_mul, pow_succ]

theorem mantissa_ofMantissaAndAccuracy (m : Nat) (a : Accuracy) :
    (ExtendedMantissa.ofMantissaAndAccuracy m a).mantissa = m := by
  rcases a with _ | _ | _ | _ <;> rfl

theorem brackets_exact (m : Nat) : Brackets (.ofMantissaAndAccuracy m .exact) m :=
  ⟨le_refl _, lt_add_one _, by rintro (h | h) <;> cases h⟩

theorem targetExponent_total (m : Nat) (e : Int) :
    Format.binary64.targetExponent (totalExponent m e) = max (m.log2 + e - 52) (-1074) := by
  show max ((m.log2 : Int) + 1 + e - 53) (-1074) = _
  congr 1
  omega

/-- A mantissa that fits is not shifted. -/
theorem shift_of_fits (fits : Fits m e) :
    shiftToTargetExponent Format.binary64 m e .exact = (⟨m, false, false⟩, e) := by
  have short : m.log2 ≤ 52 := by
    by_cases zero : m = 0
    · rw [zero]
      decide
    · have := (Nat.log2_lt (k := 53) zero).mpr fits.below
      omega
  have still : (Format.binary64.targetExponent (totalExponent m e) - e).toNat = 0 := by
    have := fits.least
    rw [targetExponent_total]
    omega
  simp only [shiftToTargetExponent, shiftToExponent, still]
  exact congrArg (Prod.mk _) (Int.add_zero e)

/-- A mantissa that rounding has filled up is halved. -/
theorem shift_of_filled (least : -1074 ≤ e) :
    shiftToTargetExponent Format.binary64 (2 * fullMantissa) e .exact =
      (⟨fullMantissa, false, false⟩, e + 1) := by
  have once : (Format.binary64.targetExponent (totalExponent (2 * fullMantissa) e) - e).toNat = 1 := by
    rw [targetExponent_total, show (2 * fullMantissa).log2 = 53 from Nat.log2_two_pow (n := 53)]
    omega
  simp only [shiftToTargetExponent, shiftToExponent, once]
  rfl

/-- The first shift leaves a mantissa that fits and brackets the exact one. -/
theorem fits_shifted (brackets : Brackets (.ofMantissaAndAccuracy m a) q)
    (enough : fullMantissa ≤ m ∨ e ≤ -1074) :
    ∃ em k, shiftToTargetExponent Format.binary64 m e a = (em, e + (k : Nat)) ∧
      Brackets em (q / 2 ^ k) ∧ Fits em.mantissa (e + k) := by
  have target := targetExponent_total m e
  refine ⟨_, _, rfl, brackets.shiftRight _, ?_⟩
  generalize shift : (Format.binary64.targetExponent (totalExponent m e) - e).toNat = k
  rw [target] at shift
  have log : fullMantissa ≤ m → 52 ≤ m.log2 := fun full =>
    (Nat.le_log2 (k := 52) (by rintro rfl; contradiction)).mpr full
  rw [mantissa_shiftRight, mantissa_ofMantissaAndAccuracy]
  refine ⟨?_, by omega, ?_⟩
  · rw [Nat.div_lt_iff_lt_mul (by positivity)]
    calc m < 2 ^ (m.log2 + 1) := Nat.lt_log2_self
      _ ≤ 2 ^ (53 + k) := Nat.pow_le_pow_right two_pos (by omega)
      _ = 2 * fullMantissa * 2 ^ k := pow_add 2 53 k
  · by_cases least : e + k = -1074
    · exact Or.inr least
    · have full : 52 ≤ m.log2 := by
        rcases enough with full | low
        · exact log full
        · omega
      left
      rw [Nat.le_div_iff_mul_le (by positivity)]
      calc fullMantissa * 2 ^ k = 2 ^ (52 + k) := (pow_add 2 52 k).symm
        _ = 2 ^ m.log2 := by
          congr 1
          omega
        _ ≤ m := Nat.log2_self_le (by rintro rfl; contradiction)

/-- What rounding yields once the mantissa has been shifted. -/
theorem unpacked_roundWithAccuracy (s : Sign) {t : Int}
    (shifted : shiftToTargetExponent Format.binary64 m e a = (em, t)) (fits : Fits em.mantissa t)
    (brackets : Brackets em q) :
    ∃ m' e', unpacked (roundWithAccuracy Format.binary64 s m e a) = .finite (negates s) m' e' ∧
      Fits m' e' ∧ scaled m' e' = scaled em.roundedMantissa t := by
  have near : em.mantissa ≤ em.roundedMantissa ∧ em.roundedMantissa ≤ em.mantissa + 1 := by
    rcases brackets.rounded_cases with same | ⟨up, -⟩ <;> omega
  have below := fits.below
  have full := fits.full
  rcases Nat.lt_or_ge em.roundedMantissa (2 * fullMantissa) with short | filled
  · have again : Fits em.roundedMantissa t := ⟨short, fits.least, by omega⟩
    have second := shift_of_fits again
    refine ⟨em.roundedMantissa, t, ?_, again, rfl⟩
    simp only [roundWithAccuracy, shifted, second]
    split
    · rename_i zero
      have least : t = -1074 := again.full.resolve_left (by rw [zero]; decide)
      rw [zero, least]
      rfl
    · rfl
  · have filled : em.roundedMantissa = 2 * fullMantissa := by omega
    have second := shift_of_filled fits.least
    refine ⟨fullMantissa, t + 1, ?_, ⟨by decide, by have := fits.least; omega, Or.inl (le_refl _)⟩, ?_⟩
    · simp only [roundWithAccuracy, shifted, filled, second]
      rfl
    · rw [filled, Nat.mul_comm, ← pow_one 2, ← scaled_add]
      rfl

/-! ## Rounded numbers -/

/-- The result of rounding a fraction: both are on the same side of every double. -/
structure Faithful (q r : ℚ) : Prop where
  le : ∀ {w}, Representable w → q ≤ w → r ≤ w
  ge : ∀ {w}, Representable w → w ≤ q → w ≤ r

/-- Whether a double is what a fraction is rounded to; a fraction beyond all doubles is rounded to an
    infinity. -/
def Rounds (q : ℚ) (x : Float) : Prop :=
  (∃ r, StandsFor x r ∧ Faithful q r) ∨
    value x = .infinite (decide (q < 0)) ∧ ∀ w, Representable w → |w| < |q|

theorem faithful_self (q : ℚ) : Faithful q q := ⟨fun _ => id, fun _ => id⟩

theorem Faithful.neg (faithful : Faithful q r) : Faithful (-q) (-r) where
  le representable le := neg_le.mp (faithful.ge representable.neg (neg_le.mp le))
  ge representable le := le_neg.mp (faithful.le representable.neg (le_neg.mp le))

theorem Faithful.signed (faithful : Faithful q r) (negative : Bool) :
    Faithful (signed negative q) (signed negative r) := by
  cases negative
  · exact faithful
  · exact faithful.neg

theorem Faithful.eq_of_representable (faithful : Faithful q r) (representable : Representable q) : r = q :=
  le_antisymm (faithful.le representable (le_refl q)) (faithful.ge representable (le_refl q))

/-- The rounded mantissa is on the same side of a double as the exact one. -/
theorem scaled_rounded (brackets : Brackets em q) {t : Int} (fits : Fits em.mantissa t) (fits' : Fits m e) :
    (q * 2 ^ t ≤ scaled m e → scaled em.roundedMantissa t ≤ scaled m e) ∧
      (scaled m e ≤ q * 2 ^ t → scaled m e ≤ scaled em.roundedMantissa t) := by
  have pos : (0 : ℚ) < 2 ^ t := by positivity
  rcases lt_or_ge e t with lt | ge
  · -- a double with a smaller exponent is below the mantissa before rounding
    have below : scaled m e < scaled em.mantissa t := fits'.scaled_lt fits lt
    have exact_ : scaled em.mantissa t ≤ q * 2 ^ t := mul_le_mul_of_nonneg_right brackets.le pos.le
    have rounded : scaled em.mantissa t ≤ scaled em.roundedMantissa t :=
      scaled_le_scaled (brackets.le_rounded brackets.le) t
    exact ⟨fun le => absurd (exact_.trans le) (not_le_of_gt below), fun _ => below.le.trans rounded⟩
  · -- any other one is a whole number of last places
    obtain ⟨k, rfl⟩ : ∃ k : Nat, e = t + k := ⟨(e - t).toNat, by omega⟩
    rw [scaled_add]
    constructor
    · intro le
      exact scaled_le_scaled (brackets.rounded_le (le_of_mul_le_mul_right le pos)) t
    · intro le
      exact scaled_le_scaled (brackets.le_rounded (le_of_mul_le_mul_right le pos)) t

/-- Parts that are on the same side of every double as a fraction are what it is rounded to. -/
theorem rounds_of_parts {negative : Bool} (parts : unpacked u = .finite negative m e) (fits : Fits m e)
    (nonneg : 0 ≤ q)
    (near : ∀ {m' e'}, Fits m' e' → (q ≤ scaled m' e' → scaled m e ≤ scaled m' e') ∧
      (scaled m' e' ≤ q → scaled m' e' ≤ scaled m e)) :
    Rounds (signed negative q) (.ofModel (.pack u)) := by
  have kept : value (.ofModel (.pack u)) = stored (.finite negative m e) := by
    rw [value_ofModel_pack, parts]
    intro negative' m' e' again
    cases parts.symm.trans again
    exact fits
  by_cases small : e ≤ 971
  · rw [stored, if_pos small] at kept
    have faithful : Faithful q (scaled m e) := by
      constructor
      · rintro w ⟨m', e', fits', -, abs⟩ le
        rw [abs_of_nonneg (nonneg.trans le)] at abs
        rw [abs] at le ⊢
        exact (near fits').1 le
      · rintro w ⟨m', e', fits', -, abs⟩ le
        rcases le_total w 0 with low | high
        · exact low.trans (scaled_nonneg m e)
        · rw [abs_of_nonneg high] at abs
          rw [abs] at le ⊢
          exact (near fits').2 le
    exact Or.inl ⟨_, by rw [StandsFor, kept]; rfl, faithful.signed negative⟩
  · rw [stored, if_neg small] at kept
    have beyond : ∀ w, Representable w → |w| < q := by
      rintro w ⟨m', e', fits', small', abs⟩
      rw [abs]
      refine not_le.mp fun le => ?_
      exact absurd ((near fits').1 le) (not_le_of_gt (fits'.scaled_lt fits (by omega)))
    have pos : 0 < q := by simpa using beyond 0 representable_zero
    refine Or.inr ⟨?_, fun w representable => ?_⟩
    · rw [kept]
      cases negative
      · rw [signed, if_neg Bool.false_ne_true, decide_eq_false (not_lt_of_ge nonneg)]
      · rw [signed, if_pos rfl, decide_eq_true (neg_neg_of_pos pos)]
    · rw [abs_signed nonneg]
      exact beyond w representable

/-- **An exact result is rounded**, if it has a full mantissa or comes with the least exponent. -/
theorem rounds_roundWithAccuracy (s : Sign) (brackets : Brackets (.ofMantissaAndAccuracy m a) q)
    (enough : fullMantissa ≤ m ∨ e ≤ -1074) :
    Rounds (signed (negates s) (q * 2 ^ e))
      (.ofModel (.pack (roundWithAccuracy Format.binary64 s m e a))) := by
  obtain ⟨em, k, shifted, near, fits⟩ := fits_shifted brackets enough
  obtain ⟨m', e', parts, fits', same⟩ := unpacked_roundWithAccuracy s shifted fits near
  have nonneg : 0 ≤ q := (Nat.cast_nonneg _).trans brackets.le
  have whole : q / 2 ^ k * 2 ^ (e + (k : Int)) = q * 2 ^ e := by
    rw [zpow_add₀ two_ne_zero, zpow_natCast]
    field_simp
  refine rounds_of_parts parts fits' (by positivity) ?_
  intro m'' e'' fits''
  have next := scaled_rounded near fits fits''
  rwa [whole, ← same] at next

/-- A number that has its form already is not rounded. -/
theorem rounds_pack (packable : Packable u) (number : (unpacked u).number? = some q) :
    Rounds q (.ofModel (.pack u)) :=
  Or.inl ⟨q, by rwa [StandsFor, value_pack packable], faithful_self q⟩

/-! ## Bounds -/

/-- A fraction that is not beyond all doubles is rounded to a number. -/
theorem Rounds.number (rounds : Rounds q x) (representable : Representable w) (le : |q| ≤ |w|) :
    ∃ r, StandsFor x r ∧ Faithful q r := by
  rcases rounds with number | ⟨-, beyond⟩
  · exact number
  · exact absurd le (not_le_of_gt (beyond w representable))

/-- A fraction that a double stands for is not changed by rounding. -/
theorem Rounds.standsFor (rounds : Rounds q x) (representable : Representable q) : StandsFor x q := by
  obtain ⟨r, number, faithful⟩ := rounds.number representable (le_refl _)
  rwa [faithful.eq_of_representable representable] at number

/-- A fraction between zero and a double is rounded to a number between them. -/
theorem Rounds.between (rounds : Rounds q x) (nonneg : 0 ≤ q) (representable : Representable w)
    (le : q ≤ w) : ∃ r, StandsFor x r ∧ 0 ≤ r ∧ r ≤ w := by
  obtain ⟨r, number, faithful⟩ := rounds.number representable (abs_le_abs_of_nonneg nonneg le)
  exact ⟨r, number, faithful.ge representable_zero nonneg, faithful.le representable le⟩

/-- Whether a double is at least a fraction; plus infinity is at least every fraction. -/
def AtLeast (q : ℚ) (x : Float) : Prop := value x = .infinite false ∨ ∃ r, StandsFor x r ∧ q ≤ r

theorem Rounds.atLeast (rounds : Rounds q x) (representable : Representable w) (le : w ≤ q) :
    AtLeast w x := by
  rcases rounds with ⟨r, number, faithful⟩ | ⟨infinite, beyond⟩
  · exact Or.inr ⟨r, number, faithful.ge representable le⟩
  · -- a fraction below all doubles is not above this one
    have nonneg : ¬ q < 0 := by
      intro negative
      have := beyond w representable
      rw [abs_of_neg negative, abs_of_neg (le.trans_lt negative)] at this
      linarith
    rw [decide_eq_false nonneg] at infinite
    exact Or.inl infinite

end Chip8.Double
