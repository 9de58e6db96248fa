import Mathlib
import ChartQuery.Json.Number

/-!
# Numbers as floats

An integer of a document need not be a float.  Read as one it is scaled so that
53 bits stand before the point, and the rest is rounded once.  The float is a
multiple of the last of these bits, and it is off by half of it at most.  Floats
in smaller steps all lie below, so no float is nearer.
-/

namespace ChartQuery

namespace Binary64

/-- The value of a float. -/
def toRat (number : Binary64) : ℚ :=
  (if number.negative = true then -1 else 1) *
    (number.significand * (2 : ℚ) ^ number.exponent)

/-- No float is nearer to the value. -/
def Nearest (number : Binary64) (value : ℚ) : Prop :=
  ∀ other : Binary64, |number.toRat - value| ≤ |other.toRat - value|

/-! ## Rounding a quotient -/

theorem divideHalfEven_bounds (numerator denominator : Nat) :
    numerator / denominator ≤ divideHalfEven numerator denominator ∧
      divideHalfEven numerator denominator ≤ numerator / denominator + 1 := by
  simp only [divideHalfEven]
  split_ifs <;> omega

/-- Twice the error of the rounded quotient is one denominator at most. -/
theorem divideHalfEven_close (numerator : Nat) {denominator : Nat}
    (positive : 0 < denominator) :
    2 * (denominator * divideHalfEven numerator denominator) ≤
        2 * numerator + denominator ∧
      2 * numerator ≤
        2 * (denominator * divideHalfEven numerator denominator) +
          denominator := by
  have divided := Nat.div_add_mod numerator denominator
  have remains := Nat.mod_lt numerator positive
  simp only [divideHalfEven]
  split_ifs with low high
  · omega
  · rw [Nat.mul_add]
    omega
  · rcases Nat.mod_two_eq_zero_or_one (numerator / denominator) with even | odd
    · rw [even, Nat.add_zero]
      omega
    · rw [odd, Nat.mul_add]
      omega

theorem abs_divideHalfEven_sub_le (numerator : Nat) {denominator : Nat}
    (positive : 0 < denominator) :
    |(divideHalfEven numerator denominator : ℚ) - numerator / denominator| ≤
      1 / 2 := by
  have scaled : (0 : ℚ) < denominator := by exact_mod_cast positive
  rcases divideHalfEven_close numerator positive with ⟨above, below⟩
  have high : (2 * (denominator * divideHalfEven numerator denominator) : ℚ) ≤
      2 * numerator + denominator := by exact_mod_cast above
  have low : (2 * numerator : ℚ) ≤
      2 * (denominator * divideHalfEven numerator denominator) +
        denominator := by exact_mod_cast below
  rw [abs_le, neg_le_sub_iff_le_add, sub_le_iff_le_add,
    div_le_iff₀ scaled, ← sub_le_iff_le_add', le_div_iff₀ scaled]
  constructor <;> linarith

/-- No integer is nearer than one that is off by a half at most. -/
theorem abs_sub_le_of_half {near : ℤ} {value : ℚ}
    (close : |near - value| ≤ 1 / 2) (other : ℤ) :
    |near - value| ≤ |other - value| := by
  by_cases same : other = near
  · rw [same]
  · have apart : (1 : ℚ) ≤ |(other - near : ℤ)| := by
      exact_mod_cast Int.one_le_abs (sub_ne_zero.mpr same)
    have between := abs_sub_le (other : ℚ) value near
    rw [abs_sub_comm value] at between
    push_cast at apart
    linarith

/-! ## Leading bits -/

/-- The power of two by which the 53 leading bits of an integer are scaled. -/
def leadingScale (value : Nat) : ℤ := Nat.log2 value - 52

variable {value : Nat}

/-- The integer, scaled, has 53 bits before the point. -/
theorem scaled_bounds (positive : 0 < value) :
    2 ^ 52 ≤ value / (2 : ℚ) ^ leadingScale value ∧
      value / (2 : ℚ) ^ leadingScale value < 2 ^ 53 := by
  have scaled : (0 : ℚ) < 2 ^ leadingScale value := by positivity
  have low : (2 : ℚ) ^ Nat.log2 value ≤ value := by
    exact_mod_cast Nat.log2_self_le (Nat.pos_iff_ne_zero.mp positive)
  have high : (value : ℚ) < 2 ^ (Nat.log2 value + 1) := by
    exact_mod_cast Nat.lt_log2_self
  have start : (2 : ℚ) ^ 52 * 2 ^ leadingScale value = 2 ^ Nat.log2 value := by
    rw [leadingScale, ← zpow_natCast, ← zpow_natCast,
      ← zpow_add₀ two_ne_zero]
    congr 1
    omega
  rw [le_div_iff₀ scaled, div_lt_iff₀ scaled, start]
  refine ⟨low, high.trans_eq ?_⟩
  rw [pow_succ, ← start]
  ring

theorem binaryLog_one (positive : 0 < value) :
    binaryLog value 1 = Nat.log2 value := by
  have low := Nat.log2_self_le (Nat.pos_iff_ne_zero.mp positive)
  have one : Nat.log2 1 = 0 := by decide
  simp [binaryLog, one, low]

/-- The fraction that is rounded is the integer, scaled. -/
theorem scaled_fraction (value : Nat) (scale : ℤ) :
    ((value * 2 ^ (-scale).toNat : Nat) : ℚ) / (1 * 2 ^ scale.toNat : Nat) =
      value / 2 ^ scale := by
  have split : (2 : ℚ) ^ scale = 2 ^ scale.toNat / 2 ^ (-scale).toNat := by
    rw [← zpow_natCast, ← zpow_natCast, ← zpow_sub₀ two_ne_zero,
      Int.toNat_sub_toNat_neg]
  rw [split]
  push_cast
  field_simp

/-- Finding a float for an integer rounds to its leading bits. -/
theorem exists_leading (positive : 0 < value) :
    ∃ leading : Nat,
      nearestIndex value 1 =
          (leadingScale value + 1074).toNat * 2 ^ 52 + leading ∧
        (2 ^ 52 ≤ leading ∧ leading ≤ 2 ^ 53) ∧
        |(leading : ℚ) - value / 2 ^ leadingScale value| ≤ 1 / 2 := by
  have scaled := scaled_fraction value (leadingScale value)
  have bounds := scaled_bounds positive
  rw [← scaled] at bounds ⊢
  have scale : max (binaryLog value 1 - 52) (-1074) = leadingScale value := by
    rw [binaryLog_one positive, leadingScale]
    omega
  have denominator : 0 < 1 * 2 ^ (leadingScale value).toNat := by positivity
  refine ⟨_, ?_, ?_, abs_divideHalfEven_sub_le _ denominator⟩
  · simp only [nearestIndex, if_neg (Nat.pos_iff_ne_zero.mp positive), scale,
      Nat.pow_eq]
  · have rounded := divideHalfEven_bounds
      (value * 2 ^ (-leadingScale value).toNat)
      (1 * 2 ^ (leadingScale value).toNat)
    have fraction : (0 : ℚ) < (1 * 2 ^ (leadingScale value).toNat : Nat) := by
      exact_mod_cast denominator
    rw [le_div_iff₀ fraction, div_lt_iff₀ fraction] at bounds
    have low := (Nat.le_div_iff_mul_le denominator).mpr
      (by exact_mod_cast bounds.1)
    have high := (Nat.div_lt_iff_lt_mul denominator).mpr
      (by exact_mod_cast bounds.2)
    omega

/-! ## Indices -/

/-- An index made of a scale and 53 bits stands for the bits, scaled. -/
theorem magnitude_of_index {number : Binary64} {scale : ℤ} {leading : Nat}
    (index : number.index = (scale + 1074).toNat * 2 ^ 52 + leading)
    (normal : -1074 ≤ scale) (bits : 2 ^ 52 ≤ leading ∧ leading ≤ 2 ^ 53) :
    number.significand * (2 : ℚ) ^ number.exponent = leading * 2 ^ scale := by
  have large : ¬ number.index < Nat.pow 2 52 := by
    rw [Nat.pow_eq]
    omega
  rw [significand, exponent, if_neg large, if_neg large]
  rcases Nat.lt_or_eq_of_le bits.2 with short | full
  · have block : number.index / 2 ^ 52 = (scale + 1075).toNat := by omega
    have rest : 2 ^ 52 + number.index % 2 ^ 52 = leading := by omega
    have same : (((scale + 1075).toNat : Nat) : ℤ) - 1075 = scale := by omega
    simp only [Nat.pow_eq]
    rw [block, rest, same]
  · -- Rounded up to a further bit, the number starts the next block.
    have block : number.index / 2 ^ 52 = (scale + 1076).toNat := by omega
    have rest : number.index % 2 ^ 52 = 0 := by omega
    have next : (((scale + 1076).toNat : Nat) : ℤ) - 1075 = scale + 1 := by omega
    simp only [Nat.pow_eq]
    rw [block, rest, next, full, zpow_add_one₀ two_ne_zero]
    push_cast
    ring

theorem significand_lt (number : Binary64) : number.significand < 2 ^ 53 := by
  have rest := Nat.mod_lt number.index (by decide : 2 ^ 52 > 0)
  rw [significand, Nat.pow_eq]
  split_ifs <;> omega

theorem toRat_withSign_not (number : Binary64) :
    (number.withSign (!number.negative)).toRat = -number.toRat := by
  have sameBits : (number.withSign (!number.negative)).significand =
      number.significand := rfl
  have sameScale : (number.withSign (!number.negative)).exponent =
      number.exponent := rfl
  rw [toRat, toRat, sameBits, sameScale]
  cases sign : number.negative <;> simp [withSign]

/-! ## Nearest floats -/

/-- Steps that are not smaller lead to multiples. -/
theorem exists_multiple {number : Binary64} {scale : ℤ}
    (coarse : scale ≤ number.exponent) :
    ∃ count : ℤ, number.toRat = count * 2 ^ scale := by
  refine ⟨(if number.negative = true then -1 else 1) *
    (number.significand * 2 ^ (number.exponent - scale).toNat), ?_⟩
  have split : (2 : ℚ) ^ number.exponent =
      2 ^ (number.exponent - scale).toNat * 2 ^ scale := by
    rw [← zpow_natCast, ← zpow_add₀ two_ne_zero]
    congr 1
    omega
  rw [toRat, split]
  push_cast
  ring

/-- Smaller steps lead to numbers below `2 ^ 52` of the larger ones. -/
theorem toRat_le_of_fine {number : Binary64} {scale : ℤ}
    (fine : number.exponent < scale) : number.toRat ≤ 2 ^ 52 * 2 ^ scale := by
  have bits : (number.significand : ℚ) ≤ 2 ^ 53 := by
    exact_mod_cast number.significand_lt.le
  have steps : (2 : ℚ) ^ number.exponent ≤ 2 ^ (scale - 1) :=
    zpow_le_zpow_right₀ one_le_two (by omega)
  have magnitude : (0 : ℚ) ≤ number.significand * 2 ^ number.exponent := by
    positivity
  calc
    number.toRat ≤ number.significand * 2 ^ number.exponent := by
      rw [toRat]
      split_ifs <;> linarith
    _ ≤ 2 ^ 53 * 2 ^ (scale - 1) := by gcongr
    _ = 2 ^ 52 * 2 ^ scale := by
      rw [zpow_sub_one₀ two_ne_zero]
      ring

/-- No float is nearer to an integer than its leading bits, rounded. -/
theorem abs_leading_sub_le (positive : 0 < value) {leading : Nat}
    (close : |(leading : ℚ) - value / 2 ^ leadingScale value| ≤ 1 / 2)
    (other : Binary64) :
    |(leading : ℚ) * 2 ^ leadingScale value - value| ≤
      |other.toRat - value| := by
  have unit : (0 : ℚ) < 2 ^ leadingScale value := by positivity
  have scaled (near : ℚ) : |near * 2 ^ leadingScale value - value| =
      |near - value / 2 ^ leadingScale value| * 2 ^ leadingScale value := by
    rw [← abs_of_pos unit, ← abs_mul, sub_mul, abs_of_pos unit,
      div_mul_cancel₀ _ unit.ne']
  have half : |((leading : ℤ) : ℚ) - value / 2 ^ leadingScale value| ≤ 1 / 2 :=
    mod_cast close
  rcases le_or_gt (leadingScale value) other.exponent with coarse | fine
  · rcases exists_multiple coarse with ⟨count, multiple⟩
    rw [multiple, scaled, scaled]
    exact mul_le_mul_of_nonneg_right (abs_sub_le_of_half half count) unit.le
  · -- The integer and its float are not below the other one.
    have least := (le_div_iff₀ unit).mp (scaled_bounds positive).1
    have nearer := abs_sub_le_of_half half (2 ^ 52)
    push_cast at nearer
    calc
      |(leading : ℚ) * 2 ^ leadingScale value - value| ≤
          |(2 : ℚ) ^ 52 * 2 ^ leadingScale value - value| := by
        rw [scaled, scaled]
        exact mul_le_mul_of_nonneg_right nearer unit.le
      _ = value - 2 ^ 52 * 2 ^ leadingScale value := by
        rw [abs_sub_comm, abs_of_nonneg (sub_nonneg.mpr least)]
      _ ≤ value - other.toRat := sub_le_sub_left (toRat_le_of_fine fine) _
      _ ≤ |other.toRat - value| := by
        rw [abs_sub_comm]
        exact le_abs_self _

theorem Nearest.withSign_not {number : Binary64} {value : ℚ}
    (near : number.Nearest value) :
    (number.withSign (!number.negative)).Nearest (-value) := by
  have mirrored (left : ℚ) : |-left - -value| = |left - value| := by
    rw [neg_sub_neg, abs_sub_comm]
  intro other
  have nearer := near (other.withSign (!other.negative))
  rw [toRat_withSign_not, ← mirrored, ← mirrored, neg_neg] at nearer
  rwa [toRat_withSign_not]

theorem nearest_toRat (number : Binary64) : number.Nearest number.toRat := by
  intro other
  rw [sub_self, abs_zero]
  exact abs_nonneg _

/-- The index of an integer below `2 ^ 64` is that of a nearest float. -/
theorem exists_nearest_of_lt (small : value < 2 ^ 64) :
    ∃ isFinite, Nearest ⟨false, nearestIndex value 1, isFinite⟩ value := by
  rcases Nat.eq_zero_or_pos value with rfl | positive
  · have exact : zero.toRat = (0 : Nat) := by
      simp [toRat, zero, significand]
    exact ⟨zero.isFinite, exact ▸ zero.nearest_toRat⟩
  · rcases exists_leading positive with ⟨leading, index, bits, close⟩
    have scale : -52 ≤ leadingScale value ∧ leadingScale value < 12 := by
      have short := (Nat.log2_lt positive.ne').mpr small
      rw [leadingScale]
      omega
    have isFinite : nearestIndex value 1 < 2047 * Nat.pow 2 52 := by
      rw [index, Nat.pow_eq]
      omega
    refine ⟨isFinite, fun other => ?_⟩
    rw [toRat, magnitude_of_index index (by omega) bits, if_neg Bool.false_ne_true,
      one_mul]
    exact abs_leading_sub_le positive close other

end Binary64

namespace Json.Number

/-- The value of a number. -/
def toRat : Json.Number → ℚ
  | .integer value _ => value
  | .float value => value.toRat

/-- A number is read as a float next to it. -/
theorem nearest_toBinary64 (number : Json.Number) :
    number.toBinary64.Nearest number.toRat := by
  cases number with
  | integer value fits =>
      have small : value.natAbs < 2 ^ 64 := by omega
      rcases Binary64.exists_nearest_of_lt small with ⟨isFinite, nearest⟩
      have read : (Json.Number.integer value fits).toBinary64 =
          ⟨decide (value < 0), Binary64.nearestIndex value.natAbs 1,
            isFinite⟩ := by
        simp only [toBinary64, Binary64.ofNat?, Binary64.ofFraction?,
          dif_pos isFinite, Option.getD_some]
      rw [read]
      rcases lt_or_ge value 0 with negative | positive
      · have size : (value : ℚ) = -(value.natAbs : ℚ) := by
          rw [Nat.cast_natAbs, abs_of_neg negative, Int.cast_neg, neg_neg]
        rw [decide_eq_true negative, toRat, size]
        exact nearest.withSign_not
      · have size : (value : ℚ) = (value.natAbs : ℚ) := by
          rw [Nat.cast_natAbs, abs_of_nonneg positive]
        rw [decide_eq_false (not_lt.mpr positive), toRat, size]
        exact nearest
  | float value => exact value.nearest_toRat

end Json.Number

end ChartQuery
