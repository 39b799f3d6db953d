import Mathlib.Algebra.Order.Field.Power
import Mathlib.Algebra.Order.Field.Rat
import Mathlib.Tactic.FieldSimp
import Mathlib.Tactic.Linarith
import Mathlib.Tactic.Positivity
import Mathlib.Tactic.Ring
import Scriptlet.Proofs.Number.Rounding

/-
  Correct rounding of decimals.
  A decimal is rounded to the number nearest to it, of two equally near ones to that with an even
  last digit; an infinity counts as the power of two at which it begins (`Decimal.RoundsTo`). The
  limits beyond which an exponent decides by itself make no difference (`toBinary_eq_ofQuotient`).
  Main statement: `Decimal.roundsTo_toBinary`.
-/

namespace Scriptlet

/-! ## Numbers as fractions -/

/-- The factor of a sign. -/
def signFactor (negative : Bool) : ℚ :=
  if negative then -1 else 1

/-- The number that a decimal writes. -/
def Decimal.value (d : Decimal) : ℚ :=
  signFactor d.negative * (d.digits * 10 ^ d.exponent)

namespace Binary

variable {f : Format}

/-- The number that a binary number is; an infinity counts as the power of two at which it
begins. -/
def value (x : Binary f) : ℚ :=
  x.rank / 2 ^ f.scale

/-- The last of the bits that the precision allows is zero. -/
def Even (x : Binary f) : Prop :=
  2 ^ (f.slack x.rank.natAbs + 1) ∣ x.rank.natAbs

end Binary

/-- `x` is the number nearest to the decimal, with its sign, and its last bit is zero if another
number is as near. -/
structure Decimal.RoundsTo {f : Format} (d : Decimal) (x : Binary f) : Prop where
  number : x ≠ .nan
  sign : x.isNegative = d.negative
  near : ∀ y : Binary f, y ≠ .nan → |x.value - d.value| ≤ |y.value - d.value|
  even : ∀ y : Binary f, y ≠ .nan → y.value ≠ x.value →
    |y.value - d.value| = |x.value - d.value| → x.Even

/-! ## Magnitudes -/

namespace Format

variable {f : Format} {m num den : Nat}

theorem precise_zero (f : Format) : f.Precise 0 :=
  ⟨0, 0, Nat.two_pow_pos _, rfl⟩

theorem precise_two_pow (some : 0 < f.precision) (place : Nat) : f.Precise (2 ^ place) :=
  ⟨1, place, Nat.one_lt_two_pow (Nat.pos_iff_ne_zero.1 some), (Nat.one_mul _).symm⟩

/-- What the precision allows is not rounded. -/
theorem nearest_of_precise (precise : f.Precise m) (pos : 0 < den) :
    f.nearest (m * den) den = m := by
  have fits : Fits { f with ceiling := m } m :=
    fits_iff.2 ⟨Nat.lt_two_pow_self, precise⟩
  exact nearest_exact fits pos

theorem le_nearest (some : 0 < f.precision) (pos : 0 < den) (precise : f.Precise m)
    (le : m * den ≤ num) : m ≤ f.nearest num den := by
  have mono := nearest_mono some pos pos (Nat.mul_le_mul_right den le)
  rwa [nearest_of_precise precise pos] at mono

theorem nearest_le_of_le (some : 0 < f.precision) (pos : 0 < den) (precise : f.Precise m)
    (le : num ≤ m * den) : f.nearest num den ≤ m := by
  have mono := nearest_mono some pos pos (Nat.mul_le_mul_right den le)
  rwa [nearest_of_precise precise pos] at mono

theorem precise_nearest_quotient (some : 0 < f.precision) (pos : 0 < den) (num : Nat) :
    f.Precise (f.nearest num den) := by
  rcases Nat.lt_or_eq_of_le (nearest_le_two_pow (f := f) pos num) with less | top
  · rw [nearest_eq] at less ⊢
    rw [Nat.pow_add] at less
    exact ⟨_, _, Nat.lt_of_mul_lt_mul_right less, rfl⟩
  · rw [top]
    exact precise_two_pow some _

/-- A magnitude whose last digit is even on the grid of the quotient is even on its own grid. -/
theorem even_nearest (two : 2 ≤ f.precision) (pos : 0 < den)
    (grid : 2 ^ (f.slack (num / den) + 1) ∣ f.nearest num den) :
    2 ^ (f.slack (f.nearest num den) + 1) ∣ f.nearest num den := by
  by_cases zero : f.nearest num den = 0
  · rw [zero]
    exact Nat.dvd_zero _
  · rcases Nat.lt_or_eq_of_le (nearest_le_two_pow (f := f) pos num) with less | top
    · exact (Nat.pow_dvd_pow 2 (Nat.succ_le_succ (slack_le zero less))).trans grid
    · -- at the power of two the next grid begins, which is coarser by one bit
      have slack : f.slack (f.nearest num den) = f.slack (num / den) + 1 := by
        conv => lhs; rw [top]
        unfold slack
        rw [Nat.log2_two_pow]
        omega
      rw [slack]
      conv => rhs; rw [top]
      exact Nat.pow_dvd_pow 2 (by omega)

/-- The magnitude of a rounded quotient: what reaches the ceiling counts as the ceiling. -/
def bounded (f : Format) (num den : Nat) : Nat :=
  min (f.nearest num den) (2 ^ f.ceiling)

theorem lt_of_ceiling_lt_nearest (some : 0 < f.precision) (pos : 0 < den)
    (lt : 2 ^ f.ceiling < f.nearest num den) : 2 ^ f.ceiling * den < num :=
  Nat.lt_of_not_le fun le =>
    Nat.not_le_of_lt lt (nearest_le_of_le some pos (precise_two_pow some _) le)

/-- Beyond the ceiling the ceiling is nearest. -/
theorem gap_ceiling_lt (beyond : 2 ^ f.ceiling * den < num) (lt : m < 2 ^ f.ceiling)
    (pos : 0 < den) : gap num den (2 ^ f.ceiling : Nat) < gap num den m := by
  have less := Nat.mul_lt_mul_of_pos_right lt pos
  unfold gap
  rw [← Int.natCast_mul, ← Int.natCast_mul]
  omega

variable (two : 2 ≤ f.precision) (pos : 0 < den) (precise : f.Precise m)
  (bound : m ≤ 2 ^ f.ceiling)
include two pos precise bound

/-- No magnitude up to the ceiling is nearer. -/
theorem gap_bounded_le : gap num den (f.bounded num den) ≤ gap num den m := by
  have some : 0 < f.precision := by omega
  unfold bounded
  rcases Nat.lt_or_ge (2 ^ f.ceiling) (f.nearest num den) with lt | le
  · rw [Nat.min_eq_right (Nat.le_of_lt lt)]
    rcases Nat.lt_or_eq_of_le bound with less | same
    · exact Nat.le_of_lt (gap_ceiling_lt (lt_of_ceiling_lt_nearest some pos lt) less pos)
    · rw [same]
  · rw [Nat.min_eq_left le]
    exact gap_nearest_le some pos precise

/-- If another magnitude up to the ceiling is as near, the one that is taken is even. -/
theorem even_bounded (other : m ≠ f.bounded num den)
    (tie : gap num den m = gap num den (f.bounded num den)) :
    2 ^ (f.slack (f.bounded num den) + 1) ∣ f.bounded num den := by
  have some : 0 < f.precision := by omega
  unfold bounded at *
  rcases Nat.lt_or_ge (2 ^ f.ceiling) (f.nearest num den) with lt | le
  · rw [Nat.min_eq_right (Nat.le_of_lt lt)] at *
    have less := Nat.lt_of_le_of_ne bound other
    have nearer := gap_ceiling_lt (lt_of_ceiling_lt_nearest some pos lt) less pos
    omega
  · rw [Nat.min_eq_left le] at *
    exact even_nearest two pos (dvd_nearest_of_tie some pos precise other tie)

end Format

/-! ## Numbers -/

namespace Binary

variable {f : Format} {x y : Binary f} {num den : Nat}

theorem ofQuotient_ne_nan (negative : Bool) (num den : Nat) :
    (ofQuotient negative num den : Binary f) ≠ nan := by
  intro none
  unfold ofQuotient at none
  dsimp only at none
  split at none
  · cases none
  · cases none

theorem isNegative_ofQuotient (negative : Bool) (num den : Nat) :
    (ofQuotient negative num den : Binary f).isNegative = negative := by
  unfold ofQuotient
  dsimp only
  split <;> rfl

theorem natAbs_rank_ofQuotient (some : 0 < f.precision) (pos : 0 < den) (num : Nat)
    (negative : Bool) :
    (ofQuotient negative num den : Binary f).rank.natAbs = f.bounded num den := by
  have precise := Format.precise_nearest_quotient (f := f) some pos num
  unfold ofQuotient Format.bounded
  dsimp only
  split
  next fits =>
    rw [natAbs_rank_finite, Nat.min_eq_left (Nat.le_of_lt (Format.fits_iff.1 fits).1)]
  next exceeds =>
    rw [natAbs_rank_infinite, Nat.min_eq_right]
    exact Nat.le_of_not_lt fun below => exceeds (Format.fits_iff.2 ⟨below, precise⟩)

/-- The magnitude of a number is one that the precision allows, up to the ceiling. -/
theorem precise_natAbs_rank (some : 0 < f.precision) (x : Binary f) :
    f.Precise x.rank.natAbs ∧ x.rank.natAbs ≤ 2 ^ f.ceiling := by
  cases x with
  | nan => exact ⟨f.precise_zero, Nat.zero_le _⟩
  | infinite negative =>
    rw [natAbs_rank_infinite]
    exact ⟨Format.precise_two_pow some _, Nat.le_refl _⟩
  | finite negative units fits =>
    rw [natAbs_rank_finite]
    exact ⟨(Format.fits_iff.1 fits).2, Nat.le_of_lt (Format.fits_iff.1 fits).1⟩

theorem value_eq (hx : x ≠ nan) :
    x.value = signFactor x.isNegative * (x.rank.natAbs / 2 ^ f.scale) := by
  unfold value signFactor
  cases x with
  | nan => exact absurd rfl hx
  | infinite negative =>
    rw [natAbs_rank_infinite]
    cases negative <;> simp [rank, isNegative, Nat.one_shiftLeft, neg_div]
  | finite negative units fits =>
    rw [natAbs_rank_finite]
    cases negative <;> simp [rank, isNegative, neg_div]

end Binary

theorem abs_signFactor_mul (negative : Bool) (q : ℚ) : |signFactor negative * q| = |q| := by
  cases negative <;> simp [signFactor]

/-- The distance of a magnitude from a quotient, both in units, as one of fractions. -/
theorem abs_units_sub {num den : Nat} (pos : 0 < den) (scale m : Nat) :
    |(m / 2 ^ scale : ℚ) - num / den / 2 ^ scale| = gap num den m / (den * 2 ^ scale) := by
  have den_pos : (0 : ℚ) < den := Nat.cast_pos.2 pos
  have unit : (0 : ℚ) < 2 ^ scale := by positivity
  have difference : (m / 2 ^ scale : ℚ) - num / den / 2 ^ scale =
      ((m * den - num : ℤ) : ℚ) / (den * 2 ^ scale) := by
    push_cast
    field_simp
  rw [difference, abs_div, abs_of_pos (mul_pos den_pos unit), ← Int.cast_abs, Int.abs_eq_natAbs]
  rfl

namespace Decimal

variable {f : Format}

theorem decimalUnits_pos (f : Format) (digits : Nat) (exponent : Int) :
    0 < (f.decimalUnits digits exponent).2 := by
  unfold Format.decimalUnits
  split
  · exact Nat.pow_pos (by decide)
  · exact Nat.one_pos

/-- The number that a decimal writes is its number of units, with the sign. -/
theorem value_eq (f : Format) (d : Decimal) :
    d.value = signFactor d.negative * ((f.decimalUnits d.digits d.exponent).1 /
      (f.decimalUnits d.digits d.exponent).2 / 2 ^ f.scale) := by
  have unit : (2 : ℚ) ^ f.scale ≠ 0 := by positivity
  unfold value Format.decimalUnits
  congr 1
  split
  next minus =>
    have power : (10 : ℚ) ^ d.exponent = ((10 : ℚ) ^ (-d.exponent).toNat)⁻¹ := by
      rw [← zpow_natCast, ← zpow_neg, Int.toNat_of_nonneg (by omega), Int.neg_neg]
    simp only [Nat.shiftLeft_eq, Nat.pow_eq]
    push_cast
    rw [power]
    field_simp
  next plus =>
    have power : (10 : ℚ) ^ d.exponent = (10 : ℚ) ^ d.exponent.toNat := by
      rw [← zpow_natCast, Int.toNat_of_nonneg (by omega)]
    simp only [Nat.shiftLeft_eq, Nat.pow_eq]
    push_cast
    rw [power]
    field_simp

section

variable {d : Decimal} {num den : Nat} (pos : 0 < den)
  (value : d.value = signFactor d.negative * (num / den / 2 ^ f.scale)) {y : Binary f}
include pos value

/-- How far a number with the sign of the decimal is from it. -/
theorem abs_sub_of_same (number : y ≠ .nan) (same : y.isNegative = d.negative) :
    |y.value - d.value| = gap num den y.rank.natAbs / (den * 2 ^ f.scale) := by
  rw [Binary.value_eq number, value, same, ← mul_sub, abs_signFactor_mul, abs_units_sub pos]

/-- A number with the other sign is farther from the decimal than zero is. -/
theorem abs_sub_of_other (number : y ≠ .nan) (other : y.isNegative ≠ d.negative) :
    |y.value - d.value| =
      y.rank.natAbs / 2 ^ f.scale + gap num den 0 / (den * 2 ^ f.scale) := by
  have opposite : signFactor y.isNegative = -signFactor d.negative := by
    cases hy : y.isNegative <;> cases hd : d.negative <;> simp_all [signFactor]
  have zero : (gap num den 0 : ℚ) = num := by
    have same : gap num den 0 = num := by
      unfold gap
      omega
    rw [same]
  have sum : signFactor y.isNegative * (y.rank.natAbs / 2 ^ f.scale : ℚ) -
      signFactor d.negative * (num / den / 2 ^ f.scale) =
        signFactor y.isNegative * (y.rank.natAbs / 2 ^ f.scale + num / den / 2 ^ f.scale) := by
    rw [opposite]
    ring
  rw [Binary.value_eq number, value, sum, abs_signFactor_mul, zero, div_div]
  exact abs_of_nonneg (by positivity)

variable (two : 2 ≤ f.precision)
include two

/-- A quotient is rounded correctly. -/
theorem roundsTo_ofQuotient : d.RoundsTo (.ofQuotient d.negative num den : Binary f) := by
  have some : 0 < f.precision := by omega
  have unit : (0 : ℚ) < den * 2 ^ f.scale := by
    have den_pos : (0 : ℚ) < den := Nat.cast_pos.2 pos
    positivity
  have number := Binary.ofQuotient_ne_nan (f := f) d.negative num den
  have sign := Binary.isNegative_ofQuotient (f := f) d.negative num den
  have magnitude := Binary.natAbs_rank_ofQuotient (f := f) some pos num d.negative
  have distance := abs_sub_of_same pos value number sign
  rw [magnitude] at distance
  have nearest {m : Nat} (precise : f.Precise m) (bound : m ≤ 2 ^ f.ceiling) :
      (gap num den (f.bounded num den) : ℚ) / (den * 2 ^ f.scale) ≤
        gap num den m / (den * 2 ^ f.scale) := by
    have le : gap num den (f.bounded num den) ≤ gap num den m :=
      Format.gap_bounded_le two pos precise bound
    gcongr
  have even {m : Nat} (precise : f.Precise m) (bound : m ≤ 2 ^ f.ceiling)
      (other : m ≠ f.bounded num den) (tie : (gap num den m : ℚ) / (den * 2 ^ f.scale) =
        gap num den (f.bounded num den) / (den * 2 ^ f.scale)) :
      (.ofQuotient d.negative num den : Binary f).Even := by
    have same := Nat.cast_injective ((div_left_inj' (ne_of_gt unit)).1 tie)
    have last := Format.even_bounded two pos precise bound other same
    unfold Binary.Even
    rwa [magnitude]
  have zero := nearest f.precise_zero (Nat.zero_le _)
  refine ⟨number, sign, fun y hy => ?_, fun y hy other tie => ?_⟩
  · obtain ⟨precise, bound⟩ := Binary.precise_natAbs_rank some y
    rw [distance]
    by_cases same : y.isNegative = d.negative
    · rw [abs_sub_of_same pos value hy same]
      exact nearest precise bound
    · rw [abs_sub_of_other pos value hy same]
      exact zero.trans (le_add_of_nonneg_left (by positivity))
  · obtain ⟨precise, bound⟩ := Binary.precise_natAbs_rank some y
    rw [Binary.value_eq hy, Binary.value_eq number, magnitude, sign] at other
    rw [distance] at tie
    by_cases same : y.isNegative = d.negative
    · rw [abs_sub_of_same pos value hy same] at tie
      refine even precise bound (fun equal => other ?_) tie
      rw [same, equal]
    · -- a number with the other sign that is as near is a zero
      rw [abs_sub_of_other pos value hy same] at tie
      have none : (y.rank.natAbs : ℚ) / 2 ^ f.scale = 0 :=
        le_antisymm (by linarith) (by positivity)
      rw [none, mul_zero] at other
      rw [none, zero_add] at tie
      refine even f.precise_zero (Nat.zero_le _) (fun equal => other ?_) tie
      rw [← equal]
      simp

end

end Decimal

/-! ## Limits of the exponent -/

namespace Binary

variable {f : Format} {num den : Nat} (some : 0 < f.precision) (pos : 0 < den)
include some

/-- What is below half a unit is rounded to zero. -/
theorem ofQuotient_of_small (negative : Bool) (small : 2 * num < den) :
    (ofQuotient negative num den : Binary f) = zero negative := by
  have none : num / den = 0 := Nat.div_eq_of_lt (by omega)
  have slack : f.slack 0 = 0 := by
    unfold Format.slack
    rw [Nat.log2_zero]
    omega
  have rounded : f.nearest num den = 0 := by
    rw [Format.nearest_eq, none, slack, Nat.pow_zero, Nat.mul_one, Nat.mul_one]
    unfold Format.halfEven
    rw [none, Nat.mod_eq_of_lt (by omega)]
    exact if_pos (.inl small)
  unfold ofQuotient
  simp only [rounded]
  exact dif_pos f.fits_zero

include pos

/-- What is beyond the ceiling is infinite. -/
theorem ofQuotient_of_great (negative : Bool) (great : 2 ^ f.ceiling * den ≤ num) :
    (ofQuotient negative num den : Binary f) = infinite negative := by
  have reached := Format.le_nearest some pos (Format.precise_two_pow some _) great
  exact dif_neg fun fits => Nat.not_lt_of_le reached (Format.fits_iff.1 fits).1

end Binary

namespace Decimal

variable {f : Format}

theorem units_of_great {digits : Nat} {exponent : Int} (ne : digits ≠ 0)
    (great : (f.ceiling : Int) < exponent) :
    2 ^ f.ceiling * (f.decimalUnits digits exponent).2 ≤
      (f.decimalUnits digits exponent).1 := by
  have plus : ¬ exponent < 0 := by omega
  have power : 2 ^ f.ceiling ≤ 10 ^ exponent.toNat :=
    calc 2 ^ f.ceiling ≤ 2 ^ exponent.toNat := Nat.pow_le_pow_right (by decide) (by omega)
      _ ≤ 10 ^ exponent.toNat := Nat.pow_le_pow_left (by decide) _
  unfold Format.decimalUnits
  rw [if_neg plus, Nat.mul_one, Nat.shiftLeft_eq]
  calc 2 ^ f.ceiling ≤ 10 ^ exponent.toNat := power
    _ ≤ digits * 10 ^ exponent.toNat := Nat.le_mul_of_pos_left _ (Nat.pos_of_ne_zero ne)
    _ ≤ digits * 10 ^ exponent.toNat * 2 ^ f.scale :=
      Nat.le_mul_of_pos_right _ (Nat.two_pow_pos _)

theorem units_of_small {digits : Nat} {exponent : Int}
    (small : ((digits.log2 + 3 + f.scale : Nat) : Int) < -exponent) :
    2 * (f.decimalUnits digits exponent).1 < (f.decimalUnits digits exponent).2 := by
  have minus : exponent < 0 := by omega
  have below : digits < 2 ^ (digits.log2 + 1) := Nat.lt_log2_self
  unfold Format.decimalUnits
  rw [if_pos minus, Nat.shiftLeft_eq]
  calc 2 * (digits * 2 ^ f.scale) < 2 * (2 ^ (digits.log2 + 1) * 2 ^ f.scale) :=
        Nat.mul_lt_mul_of_pos_left
          (Nat.mul_lt_mul_of_pos_right below (Nat.two_pow_pos _)) (by decide)
    _ = 2 ^ (digits.log2 + 2 + f.scale) := by
      rw [← Nat.pow_add, ← Nat.pow_add_one']
      congr 1
      omega
    _ ≤ 2 ^ (-exponent).toNat := Nat.pow_le_pow_right (by decide) (by omega)
    _ ≤ 10 ^ (-exponent).toNat := Nat.pow_le_pow_left (by decide) _

/-- The limits beyond which the exponent decides make no difference. -/
theorem toBinary_eq_ofQuotient (some : 0 < f.precision) (d : Decimal) :
    d.toBinary f = .ofQuotient d.negative (f.decimalUnits d.digits d.exponent).1
      (f.decimalUnits d.digits d.exponent).2 := by
  have pos := decimalUnits_pos f d.digits d.exponent
  unfold toBinary
  split
  next none =>
    have zero : (f.decimalUnits d.digits d.exponent).1 = 0 := by
      unfold Format.decimalUnits
      split <;> simp [none]
    rw [Binary.ofQuotient_of_small some d.negative (by omega)]
  next ne =>
    split
    next great => rw [Binary.ofQuotient_of_great some pos _ (units_of_great ne great)]
    next =>
      split
      next small =>
        rw [Binary.ofQuotient_of_small some d.negative (units_of_small (by omega))]
      next => rfl

/-- A decimal is rounded correctly. -/
theorem roundsTo_toBinary (two : 2 ≤ f.precision) (d : Decimal) : d.RoundsTo (d.toBinary f) := by
  rw [toBinary_eq_ofQuotient (by omega)]
  exact roundsTo_ofQuotient (decimalUnits_pos f _ _) (value_eq f d) two

end Decimal

end Scriptlet
