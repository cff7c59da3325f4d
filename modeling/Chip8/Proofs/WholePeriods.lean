/-
  Whole periods in a span.

  A span is divided by a period in doubles: its remainder is taken away, the rest divided, and the quotient
  cut down to a whole number.  None of these steps leaves the numbers as long as the quotient is at most
  `2 ^ 1023` (`floorQuotient_of_short`), since each result lies between zero and a double: the remainder is
  never larger than the span, and rounding does not cross a double.  The one step that adds something, to a
  quotient that was rounded past a whole number, is only taken where doubles are less than one apart
  (`toInt_of_quotient`).
-/
import Chip8.Proofs.DoubleArithmetic
import Chip8.Session.DeadlineClock

namespace Chip8.Double

variable {m : Nat} {e : Int} {x y : Float} {q r w X Y : ℚ}

/-! ## The remainder -/

/-- The value of a double that is put together from its parts. -/
theorem value_ofBits_parts (negative : Bool) {biased fraction : Nat} (short : biased < 2047)
    (below : fraction < fullMantissa) :
    value (.ofBits (.ofNat (negative.toNat * signBit + biased * fullMantissa + fraction))) =
      if biased = 0 then .finite negative fraction (-1074)
      else .finite negative (fullMantissa + fraction) ((biased : Int) - 1075) := by
  have bits : negative.toNat * signBit + biased * fullMantissa + fraction < 2 ^ 64 := by
    simp only [signBit, fullMantissa] at below ⊢
    have := negative.toNat_le
    omega
  rw [value_ofBits, UInt64.toNat_ofNat', Nat.mod_eq_of_lt bits, decode_parts negative (by omega) below,
    if_neg (by omega)]

/-- Moving a mantissa to another place drops bits only. -/
theorem scaled_moved (m : Nat) (e place : Int) :
    scaled ((m <<< (e - place).toNat) >>> (place - e).toNat) place ≤ scaled m e := by
  rcases le_total place e with le | le
  · obtain ⟨k, rfl⟩ : ∃ k : Nat, place = e - k := ⟨(e - place).toNat, by omega⟩
    rw [show (e - (e - (k : Int))).toNat = k by omega, show (e - (k : Int) - e).toNat = 0 by omega,
      Nat.shiftRight_zero, scaled_shiftLeft]
  · obtain ⟨k, rfl⟩ : ∃ k : Nat, place = e + k := ⟨(place - e).toNat, by omega⟩
    rw [show (e - (e + (k : Int))).toNat = 0 by omega, show (e + (k : Int) - e).toNat = k by omega,
      Nat.shiftLeft_zero, Nat.shiftRight_eq_div_pow, scaled_add]
    exact scaled_le_scaled (Nat.div_mul_le_self m _) e

/-- A mantissa that is moved to the place of its last bit has at most 53 bits left. -/
theorem moved_lt {place : Int} (high : e + (m.log2 : Int) - 52 ≤ place) :
    (m <<< (e - place).toNat) >>> (place - e).toNat < 2 * fullMantissa := by
  rw [Nat.shiftRight_eq_div_pow, Nat.div_lt_iff_lt_mul (by positivity), Nat.shiftLeft_eq]
  calc m * 2 ^ (e - place).toNat < 2 ^ (m.log2 + 1) * 2 ^ (e - place).toNat :=
        Nat.mul_lt_mul_of_pos_right Nat.lt_log2_self (by positivity)
    _ = 2 ^ (m.log2 + 1 + (e - place).toNat) := (pow_add 2 _ _).symm
    _ ≤ 2 ^ (53 + (place - e).toNat) := Nat.pow_le_pow_right two_pos (by omega)
    _ = 2 * fullMantissa * 2 ^ (place - e).toNat := pow_add 2 53 _

/-- Putting a number together drops bits only. -/
theorem value_ofScaled (negative : Bool) (representable : Representable w) (small : scaled m e ≤ |w|) :
    ∃ m' e', value (ofScaled negative m e) = .finite negative m' e' ∧ scaled m' e' ≤ scaled m e := by
  obtain ⟨m₀, e₀, fits₀, most, abs⟩ := representable
  rw [abs] at small
  simp only [ofScaled]
  generalize position : max (-1074) (e + (m.log2 : Int) - 52) = place
  have dropped := scaled_moved m e place
  have short := @moved_lt m e place (by omega)
  generalize (m <<< (e - place).toNat) >>> (place - e).toNat = m' at dropped short ⊢
  have least : -1074 ≤ place := by omega
  by_cases below : m' < fullMantissa
  · refine ⟨m', -1074, ?_, (scaled_mono m' least).trans dropped⟩
    have bits : m' + (if negative then signBit else 0) =
        negative.toNat * signBit + 0 * fullMantissa + m' := by
      cases negative <;> simp [signBit]; omega
    rw [if_pos below, bits, value_ofBits_parts negative (by decide) below, if_pos rfl]
  · have full : fullMantissa ≤ m' := not_lt.mp below
    have low : place ≤ 971 := by
      by_contra high
      have beyond := fits₀.scaled_lt ⟨short, least, Or.inl full⟩ (by omega : e₀ < place)
      exact absurd (dropped.trans small) (not_le_of_gt beyond)
    refine ⟨m', place, ?_, dropped⟩
    have bits : (place + 1074).toNat * fullMantissa + m' + (if negative then signBit else 0) =
        negative.toNat * signBit + (place + 1075).toNat * fullMantissa + (m' - fullMantissa) := by
      have next : (place + 1075).toNat = (place + 1074).toNat + 1 := by omega
      rw [next, Nat.add_mul]
      cases negative <;> simp [signBit] <;> omega
    rw [if_neg below, bits, value_ofBits_parts negative (by omega) (by omega), if_neg (by omega),
      Nat.add_sub_of_le full, show ((place + 1075).toNat : Int) - 1075 = place by omega]

theorem scaled_whole (m : Nat) {e f : Int} (le : f ≤ e) : scaled (m <<< (e - f).toNat) f = scaled m e := by
  have same := scaled_shiftLeft m e (e - f).toNat
  rwa [show e - ((e - f).toNat : Int) = f by omega] at same

/-- **The remainder** of a span lies between zero and the span. -/
theorem standsFor_remainder (number : StandsFor x X) (number' : StandsFor y Y) (nonzero : Y ≠ 0)
    (nonneg : 0 ≤ X) : ∃ r, StandsFor (remainder x y) r ∧ 0 ≤ r ∧ r ≤ X := by
  obtain ⟨negative, m, e, parts, -, -, rfl⟩ := number.parts
  obtain ⟨negative', n, f, parts', -, -, rfl⟩ := number'.parts
  have divides : n ≠ 0 := by
    rintro rfl
    rw [scaled_zero, signed_zero] at nonzero
    exact nonzero rfl
  simp only [remainder, parts, parts', if_neg divides]
  generalize left : (m <<< (e - min e f).toNat) % (n <<< (f - min e f).toNat) = rest
  have small : scaled rest (min e f) ≤ scaled m e := by
    rw [← scaled_whole m (min_le_left e f), ← left]
    exact scaled_le_scaled (Nat.mod_le _ _) _
  have within : scaled rest (min e f) ≤ |signed negative (scaled m e)| := by
    rwa [abs_signed (scaled_nonneg m e)]
  obtain ⟨m', e', value', dropped⟩ := value_ofScaled negative number.representable within
  have standsFor : StandsFor (ofScaled negative rest (min e f)) (signed negative (scaled m' e')) := by
    rw [StandsFor, value']
    rfl
  refine ⟨_, standsFor, ?_⟩
  have nonneg' := scaled_nonneg m' e'
  have le : scaled m' e' ≤ scaled m e := dropped.trans small
  cases negative
  · exact ⟨nonneg', le⟩
  · -- minus zero
    have nonneg : 0 ≤ -scaled m e := nonneg
    have zero : scaled m' e' = 0 := by linarith
    show 0 ≤ -scaled m' e' ∧ -scaled m' e' ≤ -scaled m e
    rw [zero, neg_zero]
    exact ⟨le_refl 0, nonneg⟩

/-! ## Whole numbers -/

theorem mul_two_zpow_neg (q : ℚ) (k : ℕ) : q * 2 ^ (-k : ℤ) = q / (2 ^ k : ℕ) := by
  rw [zpow_neg, zpow_natCast, div_eq_mul_inv, Nat.cast_pow, Nat.cast_ofNat]

/-- **The floor** of a number is rounded. -/
theorem rounds_floor (number : StandsFor x X) : Rounds ⌊X⌋ (floor x) := by
  obtain ⟨negative, m, e, parts, -, -, rfl⟩ := number.parts
  generalize sign : (if negative then -(m : Int) else m) = n
  have exact : signed negative (scaled m e) = n * 2 ^ e := by
    rw [← sign]
    cases negative
    · rfl
    · show -scaled m e = ((-(m : Int) : Int) : ℚ) * 2 ^ e
      rw [Int.cast_neg, Int.cast_natCast, neg_mul, scaled]
  simp only [floor, parts, sign]
  split
  · rename_i whole
    obtain ⟨k, rfl⟩ := Int.eq_ofNat_of_zero_le whole
    have integral : signed negative (scaled m k) = ((n * 2 ^ k : ℤ) : ℚ) := by
      rw [exact, zpow_natCast]
      push_cast
      rfl
    rw [integral, Int.floor_intCast, ← integral]
    exact Or.inl ⟨_, number, faithful_self _⟩
  · rename_i broken
    obtain ⟨k, rfl⟩ : ∃ k : ℕ, e = -k := ⟨(-e).toNat, by omega⟩
    rw [exact, mul_two_zpow_neg, Rat.floor_intCast_div_natCast, neg_neg, Int.toNat_natCast,
      Int.shiftRight_eq_div_pow]
    exact rounds_ofInt _

/-- The bits of a mantissa above the point are its floor. -/
theorem floor_scaled (m : Nat) (e : Int) :
    ⌊scaled m e⌋ = ((m <<< e.toNat) >>> (-e).toNat : Nat) := by
  rcases Int.eq_nat_or_neg e with ⟨k, rfl | rfl⟩
  · have integral : scaled m k = ((m * 2 ^ k : ℕ) : ℚ) := by
      rw [scaled, zpow_natCast]
      push_cast
      rfl
    rw [integral, Int.floor_natCast, Int.toNat_natCast, Int.toNat_neg_natCast, Nat.shiftRight_zero,
      Nat.shiftLeft_eq]
  · rw [scaled, mul_two_zpow_neg, Rat.floor_natCast_div_natCast, neg_neg, Int.toNat_natCast,
      Int.toNat_neg_natCast, Nat.shiftLeft_zero, Nat.shiftRight_eq_div_pow, Int.natCast_ediv]

/-- **The integer part** of a number that is not negative is its floor. -/
theorem toInt_eq_floor (number : StandsFor x X) (nonneg : 0 ≤ X) : toInt x = .ok ⌊X⌋ := by
  obtain ⟨negative, m, e, parts, -, -, rfl⟩ := number.parts
  simp only [toInt, parts, integerPart]
  rcases negative with _ | _
  · show Except.ok (((m <<< e.toNat) >>> (-e).toNat : Nat) : Int) = .ok ⌊scaled m e⌋
    rw [floor_scaled]
  · -- minus zero
    have nonneg : 0 ≤ -scaled m e := nonneg
    obtain rfl : m = 0 := by
      by_contra nonzero
      exact absurd (scaled_pos (Nat.pos_of_ne_zero nonzero) e) (by linarith)
    show _ = Except.ok ⌊-scaled 0 e⌋
    rw [scaled_zero, neg_zero, Int.floor_zero]
    simp

theorem toInt_of_nonneg (number : StandsFor x X) (nonneg : 0 ≤ X) : ∃ n : ℕ, toInt x = .ok n := by
  obtain ⟨n, whole⟩ := Int.eq_ofNat_of_zero_le (Int.floor_nonneg.mpr nonneg)
  exact ⟨n, by rw [toInt_eq_floor number nonneg, whole]⟩

/-! ## The whole periods in a span -/

/-- A number of so many places that it has no fraction is its own floor. -/
theorem floor_eq_self_or (number : StandsFor x X) : floor x = x ∨ X ≤ 2 ^ 53 := by
  obtain ⟨negative, m, e, parts, fits, -, rfl⟩ := number.parts
  by_cases whole : 0 ≤ e
  · left
    simp only [floor, parts, if_pos whole]
  · right
    calc signed negative (scaled m e) ≤ scaled m e := by
          have := scaled_nonneg m e
          cases negative
          · exact le_refl _
          · exact neg_le_self this
      _ ≤ scaled m 0 := scaled_mono m (by omega)
      _ ≤ scaled (2 * fullMantissa) 0 := scaled_le_scaled fits.below.le 0
      _ = 2 ^ 53 := by norm_num [scaled, fullMantissa]

theorem standsFor_half : StandsFor 0.5 (1 / 2) := by
  have half : value 0.5 = .finite false 0x10000000000000 (-53) := by decide +kernel
  exact standsFor_of_value half (by norm_num [signed, scaled])

/-- The floor that a count starts from, and what a rounded quotient may add to it. -/
theorem toInt_of_quotient (number : StandsFor x X) (nonneg : 0 ≤ X) :
    ∃ n : ℕ, toInt (if x - floor x > 0.5 then floor x + 1 else floor x) = .ok n := by
  have below : (⌊X⌋ : ℚ) ≤ X := Int.floor_le X
  have nonneg' : (0 : ℚ) ≤ ⌊X⌋ := by exact_mod_cast Int.floor_nonneg.mpr nonneg
  obtain ⟨f, whole, nonneg_f, -⟩ := (rounds_floor number).between nonneg' number.representable below
  split
  · rename_i up
    rcases floor_eq_self_or number with same | small
    · -- nothing is left of a whole number
      have zero : StandsFor (x - x) 0 := by
        have difference := rounds_sub number number
        rw [sub_self] at difference
        exact difference.standsFor representable_zero
      rw [same, gt_iff_lt, standsFor_half.lt_iff zero] at up
      norm_num at up
    · obtain ⟨f', whole', -, le⟩ := (rounds_floor number).between nonneg'
        (representable_two_pow (by decide)) (below.trans small)
      obtain rfl := whole.unique whole'
      obtain ⟨g, next, nonneg_g, -⟩ := (rounds_add whole standsFor_one).between (by linarith)
        (representable_two_pow (by decide : 54 ≤ 1023)) (by rw [pow_succ]; linarith)
      exact toInt_of_nonneg next nonneg_g
  · exact toInt_of_nonneg whole nonneg_f

/-- **Whole periods can be counted** in a span that is not too many of them. -/
theorem floorQuotient_of_short (number : StandsFor x X) (number' : StandsFor y Y) (nonneg : 0 ≤ X)
    (positive : 0 < Y) {k : ℕ} (short : k ≤ 1023) (le : X ≤ 2 ^ k * Y) :
    ∃ n : ℕ, floorQuotient x y = .ok n := by
  obtain ⟨r, remains, nonneg_r, le_r⟩ := standsFor_remainder number number' positive.ne' nonneg
  obtain ⟨d, difference, nonneg_d, le_d⟩ := (rounds_sub number remains).between (by linarith)
    number.representable (by linarith)
  obtain ⟨q, quotient, nonneg_q, -⟩ := (rounds_div difference number' positive.ne').between
    (div_nonneg nonneg_d positive.le) (representable_two_pow short)
    ((div_le_iff₀ positive).mpr (le_d.trans le))
  have nonzero : ¬ (y == 0) = true := by
    rw [number'.beq_iff standsFor_zero]
    exact positive.ne'
  have upward : decide (y < 0) = false := by
    rw [decide_eq_false_iff_not, number'.lt_iff standsFor_zero, not_lt]
    exact positive.le
  have upward' : decide (remainder x y < 0) = false := by
    rw [decide_eq_false_iff_not, remains.lt_iff standsFor_zero, not_lt]
    exact nonneg_r
  obtain ⟨n, count⟩ := toInt_of_quotient quotient nonneg_q
  refine ⟨n, ?_⟩
  simp only [floorQuotient, if_neg nonzero, upward, upward', bne_self_eq_false, Bool.and_false,
    Bool.false_eq_true, if_false, count]

/-- Periods that are no number cannot be counted. -/
theorem floorQuotient_of_nan (x : Float) (nan : value y = .nan) :
    floorQuotient x y = .error .notANumber := by
  have quotient : value ((x - remainder x y) / y) = .nan := div_nan _ nan
  simp only [floorQuotient, if_neg (not_nan_beq nan 0)]
  generalize lowered_ : (if (remainder x y != 0 && (decide (y < 0) != decide (remainder x y < 0))) = true
    then (x - remainder x y) / y - 1 else (x - remainder x y) / y) = q
  have lowered : value q = .nan := by
    rw [← lowered_]
    split
    · exact nan_sub quotient 1
    · exact quotient
  have floored : value (floor q) = .nan := by
    rw [floor, lowered]
    exact lowered
  have raised : value (if q - floor q > 0.5 then floor q + 1 else floor q) = .nan := by
    split
    · exact nan_add floored 1
    · exact floored
  simp only [toInt, raised]

/-- Periods of no length cannot be counted. -/
theorem floorQuotient_of_zero (x : Float) (zero : StandsFor y 0) :
    floorQuotient x y = .error .zeroPeriod :=
  if_pos ((zero.beq_iff standsFor_zero).mpr rfl)

/-- Nothing else makes periods have no length. -/
theorem floorQuotient_of_nonzero (x : Float) (nonzero : ¬ (y == 0) = true) :
    floorQuotient x y ≠ .error .zeroPeriod := by
  simp only [floorQuotient, if_neg nonzero]
  split <;> rintro ⟨⟩

end Chip8.Double
