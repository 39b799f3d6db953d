import Mathlib.Data.Nat.Prime.Pow
import Scriptlet.Proofs.Number.Remainder

/-
  Remainders of operands beyond 32 bits.
  An operand that is too great is clamped to the greatest integer of 32 bits, which has more
  significant bits than a number. So the remainder of a clamped dividend can be rounded. Rounding
  never goes past a number (`Format.nearest_le`), here the divisor, but it can reach it: the integer
  below a power of two is rounded up to it if the power is beyond the precision.
  Main statement: `Value.remainder_le`.
-/

namespace Scriptlet

namespace Format

variable {f : Format} {m bound : Nat}

/-! ## Rounding below a number -/

theorem halfEven_le {den whole : Nat} (lt : m < whole * den) : halfEven m den ≤ whole := by
  have below : m / den < whole := Nat.div_lt_of_lt_mul (Nat.mul_comm whole den ▸ lt)
  unfold halfEven
  dsimp only
  split <;> omega

/-- A quotient that is rounded up is at most half below. -/
theorem halfEven_near {den whole : Nat} (lt : m < whole * den) (up : halfEven m den = whole) :
    2 * (whole * den - m) ≤ den := by
  have below : m / den < whole := Nat.div_lt_of_lt_mul (Nat.mul_comm whole den ▸ lt)
  have split := Nat.div_add_mod' m den
  unfold halfEven at up
  dsimp only at up
  split at up
  · omega
  next far =>
    have half : den ≤ 2 * (m % den) := by omega
    have product : whole * den = m / den * den + den := by rw [← up, Nat.add_mul, Nat.one_mul]
    omega

/-- What the precision allows above a magnitude is on the grid of the magnitude. -/
theorem dvd_of_precise (precise : f.Precise bound) (ne : m ≠ 0) (lt : m < bound) :
    2 ^ f.slack m ∣ bound := by
  have finer : f.slack m ≤ f.slack bound := slack_le ne (Nat.lt_trans lt (f.lt_two_pow_slack bound))
  exact (Nat.pow_dvd_pow 2 finer).trans (Nat.dvd_of_mod_eq_zero (precise_iff.1 precise))

theorem nearest_one (f : Format) (m : Nat) :
    f.nearest m 1 = halfEven m (2 ^ f.slack m) * 2 ^ f.slack m := by
  unfold nearest
  simp only [Nat.div_one, Nat.shiftLeft_eq, Nat.one_mul]

/-- Rounding does not go past what the precision allows. -/
theorem nearest_le (precise : f.Precise bound) (ne : m ≠ 0) (lt : m < bound) :
    f.nearest m 1 ≤ bound := by
  obtain ⟨whole, split⟩ := dvd_of_precise precise ne lt
  rw [Nat.mul_comm] at split
  rw [nearest_one, split]
  exact Nat.mul_le_mul_right _ (halfEven_le (split ▸ lt))

/-- What is rounded up to `bound` is at most half a step of the grid below it. -/
theorem nearest_near (precise : f.Precise bound) (ne : m ≠ 0) (lt : m < bound)
    (up : f.nearest m 1 = bound) : 2 * (bound - m) ≤ 2 ^ f.slack m := by
  obtain ⟨whole, split⟩ := dvd_of_precise precise ne lt
  rw [Nat.mul_comm] at split
  rw [nearest_one, split] at up
  have same := Nat.mul_right_cancel (Nat.two_pow_pos _) up
  rw [split] at lt ⊢
  exact halfEven_near lt same

/-- What is rounded has no more significant bits than the precision. -/
theorem precise_nearest (some : 0 < f.precision) (m : Nat) : f.Precise (f.nearest m 1) := by
  have few : halfEven m (2 ^ f.slack m) ≤ 2 ^ f.precision := by
    refine halfEven_le ?_
    rw [← Nat.pow_add]
    exact f.lt_two_pow_slack m
  rw [nearest_one]
  rcases Nat.lt_or_eq_of_le few with less | top
  · exact ⟨_, _, less, rfl⟩
  · have one : 1 < 2 ^ f.precision := Nat.one_lt_two_pow (Nat.pos_iff_ne_zero.1 some)
    rw [top, ← Nat.pow_add]
    exact ⟨1, _, one, (Nat.one_mul _).symm⟩

end Format

namespace Binary

variable {f : Format} {x : Binary f} {n : Int}

/-- A whole number below one that is not rounded is rounded to a finite number. -/
theorem ofInt_of_lt {bound : Nat} (some : 0 < f.precision) (precise : f.Precise bound)
    (room : bound * 2 ^ f.scale < 2 ^ f.ceiling) (ne : n ≠ 0) (lt : n.natAbs < bound) :
    (ofInt n : Binary f).Finite ∧
      (ofInt n : Binary f).rank.natAbs = f.nearest (n.natAbs * 2 ^ f.scale) 1 := by
  have positive : n.natAbs * 2 ^ f.scale ≠ 0 :=
    Nat.mul_ne_zero (Int.natAbs_ne_zero.2 ne) (Nat.pos_iff_ne_zero.1 (Nat.two_pow_pos _))
  have below : n.natAbs * 2 ^ f.scale < bound * 2 ^ f.scale :=
    Nat.mul_lt_mul_of_pos_right lt (Nat.two_pow_pos _)
  have le := Format.nearest_le (precise.mul_two_pow f.scale) positive below
  have fits : f.Fits (f.nearest (n.natAbs * 2 ^ f.scale) 1) :=
    Format.fits_iff.2 ⟨Nat.lt_of_le_of_lt le room, Format.precise_nearest some _⟩
  have made : (ofInt n : Binary f) = .finite (n < 0) _ fits := by
    unfold ofInt ofQuotient
    simp only [Nat.shiftLeft_eq]
    exact dif_pos fits
  rw [made]
  exact ⟨⟨_, _, fits, rfl⟩, natAbs_rank_finite _ _ fits⟩

/-! ## Clamped operands -/

/-- The number is the whole number `n` or greater. -/
def AtLeast (x : Binary f) (n : Int) : Prop :=
  n * (2 ^ f.scale : Nat) ≤ x.rank

instance (x : Binary f) (n : Int) : Decidable (x.AtLeast n) :=
  inferInstanceAs (Decidable (_ ≤ _))

theorem le_whole_iff (pos : 0 < n) : n ≤ x.whole ↔ x.AtLeast n := by
  have unit : (0 : Int) < (2 ^ f.scale : Nat) := Int.natCast_pos.2 (Nat.two_pow_pos _)
  unfold whole AtLeast
  by_cases plus : 0 ≤ x.rank
  · rw [Int.tdiv_eq_ediv_of_nonneg plus, Int.le_ediv_iff_mul_le unit]
  · have product := Int.mul_pos pos unit
    have low : 0 ≤ (-x.rank).tdiv (2 ^ f.scale : Nat) :=
      Int.tdiv_nonneg (by omega) (Int.le_of_lt unit)
    rw [Int.neg_tdiv] at low
    omega

/-- A clamped operand has few enough significant bits, unless it is above the range. -/
theorem precise_truncate32 (x : Single) :
    Format.single.Precise x.truncate32.natAbs ∨
      x.AtLeast 0x80000000 ∧ x.truncate32 = range32.2 := by
  cases x with
  | nan => exact .inl ⟨0, 0, by decide, rfl⟩
  | infinite negative =>
    cases negative with
    | true => exact .inl ⟨1, 31, by decide, rfl⟩
    | false => exact .inr ⟨by decide +kernel, rfl⟩
  | finite negative units fits =>
    have finite : (finite negative units fits : Single).Finite := ⟨_, _, _, rfl⟩
    rw [finite.truncate32]
    unfold clamp
    split
    · exact .inl ⟨1, 31, by decide, rfl⟩
    · split
      next high => exact .inr ⟨(le_whole_iff (by decide)).1 high, rfl⟩
      next => exact .inl finite.precise_whole

theorem truncate32_of_atLeast {x : Single} (h : x.AtLeast 0x80000000) :
    x.truncate32 = range32.2 := by
  cases x with
  | nan => exact absurd h (by decide +kernel)
  | infinite negative =>
    cases negative with
    | true => exact absurd h (by decide +kernel)
    | false => rfl
  | finite negative units fits =>
    have finite : (finite negative units fits : Single).Finite := ⟨_, _, _, rfl⟩
    have high : range32.2 < whole (.finite negative units fits : Single) :=
      (le_whole_iff (by decide)).2 h
    have low : ¬ whole (.finite negative units fits : Single) < range32.1 := by
      unfold range32 at high ⊢
      dsimp only at high ⊢
      omega
    rw [finite.truncate32]
    unfold clamp
    rw [if_neg low, if_pos high]

theorem natAbs_truncate32_le (x : Single) : x.truncate32.natAbs ≤ 2 ^ 31 := by
  cases x with
  | nan => decide
  | infinite negative => cases negative <;> decide
  | finite negative units fits =>
    have finite : (finite negative units fits : Single).Finite := ⟨_, _, _, rfl⟩
    rw [finite.truncate32]
    unfold clamp range32
    split
    · decide
    · split
      · decide
      · dsimp only at *
        omega

end Binary

namespace Value

open Binary

variable {x y z : Single} {span : Span}

/-! ## The remainder of the greatest integer of 32 bits -/

/-- If the remainder of the greatest integer by `divisor` is at most half a step below the divisor,
on a grid that the divisor and the next integer are on, then it is one below it, and the divisor
divides the next integer. -/
theorem dvd_of_near {divisor scale step : Nat} (pos : 0 < divisor)
    (grid : 2 ^ step ∣ divisor * 2 ^ scale) (coarse : step ≤ 31 + scale)
    (near : 2 * (divisor * 2 ^ scale - (2 ^ 31 - 1) % divisor * 2 ^ scale) ≤ 2 ^ step) :
    divisor ∣ 2 ^ 31 := by
  have less := Nat.mod_lt (2 ^ 31 - 1) pos
  obtain ⟨gap, whole⟩ := Nat.exists_eq_add_of_lt less
  have split := Nat.div_add_mod (2 ^ 31 - 1) divisor
  generalize (2 ^ 31 - 1) / divisor = times at split
  generalize (2 ^ 31 - 1) % divisor = left at *
  have next : divisor * (times + 1) = 2 ^ 31 + gap := by
    rw [Nat.mul_add, Nat.mul_one]
    omega
  have multiple : 2 ^ step ∣ gap * 2 ^ scale := by
    have first : 2 ^ step ∣ 2 ^ 31 * 2 ^ scale := by
      rw [← Nat.pow_add]
      exact Nat.pow_dvd_pow 2 coarse
    have both : 2 ^ step ∣ 2 ^ 31 * 2 ^ scale + gap * 2 ^ scale := by
      rw [← Nat.add_mul, ← next, Nat.mul_right_comm]
      exact Nat.dvd_mul_right_of_dvd grid _
    exact (Nat.dvd_add_right first).1 both
  have small : gap * 2 ^ scale < 2 ^ step := by
    have positive := Nat.two_pow_pos scale
    have gaps : divisor * 2 ^ scale - left * 2 ^ scale = gap * 2 ^ scale + 2 ^ scale := by
      rw [← Nat.sub_mul, ← Nat.succ_mul]
      congr 1
      omega
    omega
  have none : gap = 0 := by
    have zero := Nat.eq_zero_of_dvd_of_lt multiple small
    have positive := Nat.two_pow_pos scale
    exact (Nat.mul_eq_zero.1 zero).resolve_right (Nat.pos_iff_ne_zero.1 positive)
  exact ⟨times + 1, by omega⟩

/-- The powers of two within 32 bits that are too great for the integer below them to be a
number. -/
def CoarsePower (divisor : Nat) : Prop :=
  ∃ j, 25 ≤ j ∧ j ≤ 31 ∧ divisor = 2 ^ j

theorem nearest_of_coarsePower {divisor : Nat} (h : CoarsePower divisor) :
    Format.single.nearest ((2 ^ 31 - 1) % divisor * 2 ^ Format.single.scale) 1 =
      divisor * 2 ^ Format.single.scale := by
  obtain ⟨j, low, high, rfl⟩ := h
  have each : ∀ j ≤ 31, 25 ≤ j → Format.single.nearest
      ((2 ^ 31 - 1) % 2 ^ j * 2 ^ Format.single.scale) 1 =
        2 ^ j * 2 ^ Format.single.scale := by decide +kernel
  exact each j high low

/-- The greatest magnitude of 32 bits is far below the ceiling. -/
theorem room_of_le {n : Nat} (le : n ≤ 2 ^ 31) :
    n * 2 ^ Format.single.scale < 2 ^ Format.single.ceiling := by
  have room : 2 ^ 31 * 2 ^ Format.single.scale < 2 ^ Format.single.ceiling := by
    rw [← Nat.pow_add]
    exact Nat.pow_lt_pow_right (by decide) (by decide)
  exact Nat.lt_of_le_of_lt (Nat.mul_le_mul_right _ le) room

theorem precise_of_lt {n : Nat} (lt : n < 2 ^ 24) : Format.single.Precise n :=
  ⟨n, 0, lt, (Nat.mul_one n).symm⟩

/-! ## The remainder of any two numbers -/

theorem remainder_ok_iff :
    remainder x y span = .ok z ↔
      y.truncate32 ≠ 0 ∧ z = .ofInt (x.truncate32.tmod y.truncate32) := by
  unfold remainder
  dsimp only
  split
  next zero => simp [zero]
  next ne => simp [ne, eq_comm]

/-- The magnitude of the divisor, clamped as it is and without its fraction, in units. -/
def divisorUnits (y : Single) : Nat :=
  y.truncate32.natAbs * 2 ^ Format.single.scale

/-- The remainder has few enough significant bits, unless the dividend is clamped from above and
the divisor is not. -/
theorem precise_remainder (x y : Single) :
    Format.single.Precise (x.truncate32.natAbs % y.truncate32.natAbs) ∨
      x.AtLeast 0x80000000 ∧ x.truncate32 = range32.2 ∧
        Format.single.Precise y.truncate32.natAbs := by
  rcases precise_truncate32 x with hx | ⟨above, top⟩ <;>
    rcases precise_truncate32 y with hy | ⟨-, top'⟩
  · exact .inl (hx.mod hy)
  · -- what is not below the clamped divisor is the divisor or the integer after it
    left
    have le := natAbs_truncate32_le x
    rw [top', show range32.2.natAbs = 2 ^ 31 - 1 from rfl]
    by_cases less : x.truncate32.natAbs < 2 ^ 31 - 1
    · rwa [Nat.mod_eq_of_lt less]
    · have few : x.truncate32.natAbs % (2 ^ 31 - 1) < 2 ^ 24 := by omega
      exact precise_of_lt few
  · exact .inr ⟨above, top, hy⟩
  · rw [top, top', Nat.mod_self]
    exact .inl (precise_of_lt (by decide))

section

variable (made : z = .ofInt (x.truncate32.tmod y.truncate32)) (ne : y.truncate32 ≠ 0)
include made ne

/-- A remainder that is not rounded is below the divisor. -/
theorem lt_of_precise
    (precise : Format.single.Precise (x.truncate32.natAbs % y.truncate32.natAbs)) :
    z.Finite ∧ z.rank.natAbs < divisorUnits y := by
  have magnitude := Int.natAbs_tmod x.truncate32 y.truncate32
  have less : (x.truncate32.tmod y.truncate32).natAbs < y.truncate32.natAbs :=
    magnitude ▸ Nat.mod_lt _ (Int.natAbs_pos.2 ne)
  have room := room_of_le (Nat.le_of_lt (Nat.lt_of_lt_of_le less (natAbs_truncate32_le y)))
  have exact : z.Exactly (x.truncate32.tmod y.truncate32) :=
    made ▸ exactly_ofInt room (magnitude ▸ precise)
  refine ⟨exact.finite, ?_⟩
  unfold divisorUnits
  rw [exact.rank_eq, Int.natAbs_mul, Int.natAbs_natCast]
  exact Nat.mul_lt_mul_of_pos_right less (Nat.two_pow_pos _)

variable (top : x.truncate32 = range32.2) (precise : Format.single.Precise y.truncate32.natAbs)
include top precise

/-- The magnitude of the remainder of the greatest integer is rounded once. -/
theorem rank_of_top (some : (2 ^ 31 - 1) % y.truncate32.natAbs ≠ 0) :
    z.Finite ∧ z.rank.natAbs = Format.single.nearest
      ((2 ^ 31 - 1) % y.truncate32.natAbs * 2 ^ Format.single.scale) 1 := by
  have magnitude : (x.truncate32.tmod y.truncate32).natAbs =
      (2 ^ 31 - 1) % y.truncate32.natAbs := by
    rw [Int.natAbs_tmod, top]
    rfl
  have less := Nat.mod_lt (2 ^ 31 - 1) (Int.natAbs_pos.2 ne)
  have rounded := ofInt_of_lt (by decide) precise (room_of_le (natAbs_truncate32_le y))
    (Int.natAbs_ne_zero.1 (magnitude ▸ some)) (magnitude ▸ less)
  rwa [← made, magnitude] at rounded

/-- A remainder of the greatest integer that is rounded does not go past the divisor, and reaches
it only if that is a coarse power of two. -/
theorem le_of_top (rounded : ¬ Format.single.Precise ((2 ^ 31 - 1) % y.truncate32.natAbs)) :
    z.Finite ∧ z.rank.natAbs ≤ divisorUnits y ∧
      (z.rank.natAbs = divisorUnits y → CoarsePower y.truncate32.natAbs) := by
  have many : 2 ^ 24 ≤ (2 ^ 31 - 1) % y.truncate32.natAbs :=
    Nat.le_of_not_lt fun few => rounded (precise_of_lt few)
  have pos := Int.natAbs_pos.2 ne
  have less := Nat.mod_lt (2 ^ 31 - 1) pos
  have some : (2 ^ 31 - 1) % y.truncate32.natAbs ≠ 0 := by omega
  obtain ⟨finite, rank⟩ := rank_of_top made ne top precise some
  have unit := Nat.two_pow_pos Format.single.scale
  have positive : (2 ^ 31 - 1) % y.truncate32.natAbs * 2 ^ Format.single.scale ≠ 0 :=
    Nat.mul_ne_zero some (Nat.pos_iff_ne_zero.1 unit)
  have below := Nat.mul_lt_mul_of_pos_right less unit
  have grid := precise.mul_two_pow Format.single.scale
  refine ⟨finite, rank ▸ Format.nearest_le grid positive below, fun reached => ?_⟩
  have coarse : Format.single.slack
      ((2 ^ 31 - 1) % y.truncate32.natAbs * 2 ^ Format.single.scale) ≤
        31 + Format.single.scale := by
    refine Format.slack_le positive ?_
    have small : (2 ^ 31 - 1) % y.truncate32.natAbs < 2 ^ 31 :=
      Nat.lt_of_le_of_lt (Nat.mod_le _ _) (by decide)
    have size := Nat.mul_lt_mul_of_pos_right small unit
    rw [← Nat.pow_add] at size
    exact Nat.lt_of_lt_of_le size (Nat.pow_le_pow_right (by decide) (Nat.le_add_left _ _))
  have divides := dvd_of_near pos (Format.dvd_of_precise grid positive below) coarse
    (Format.nearest_near grid positive below (rank.symm.trans reached))
  obtain ⟨j, high, power⟩ := (Nat.dvd_prime_pow Nat.prime_two).1 divides
  refine ⟨j, Nat.le_of_not_lt fun low => ?_, high, power⟩
  have le : 2 ^ j ≤ 2 ^ 24 := Nat.pow_le_pow_right (by decide) (Nat.le_of_lt_succ low)
  omega

omit precise in
theorem rank_of_coarsePower (coarse : CoarsePower y.truncate32.natAbs) :
    z.rank.natAbs = divisorUnits y := by
  obtain ⟨j, low, high, power⟩ := coarse
  have precise : Format.single.Precise y.truncate32.natAbs :=
    power ▸ ⟨1, j, by decide, (Nat.one_mul _).symm⟩
  have each : ∀ j ≤ 31, 25 ≤ j → (2 ^ 31 - 1) % 2 ^ j ≠ 0 := by decide +kernel
  obtain ⟨-, rank⟩ := rank_of_top made ne top precise (power ▸ each j high low)
  exact rank.trans (nearest_of_coarsePower ⟨j, low, high, power⟩)

end

/-- The remainder of any two numbers is finite and not greater than the divisor, clamped as it is.
It is as great exactly if the dividend is above 32 bits and the divisor is a coarse power of two. -/
theorem remainder_le (done : remainder x y span = .ok z) :
    z.Finite ∧ z.rank.natAbs ≤ divisorUnits y ∧
      (z.rank.natAbs = divisorUnits y ↔
        x.AtLeast 0x80000000 ∧ CoarsePower y.truncate32.natAbs) := by
  obtain ⟨ne, made⟩ := remainder_ok_iff.1 done
  have reaches : x.AtLeast 0x80000000 ∧ CoarsePower y.truncate32.natAbs →
      z.rank.natAbs = divisorUnits y :=
    fun h => rank_of_coarsePower made ne (truncate32_of_atLeast h.1) h.2
  -- a remainder that is not rounded is below the divisor, so nothing reaches it then
  have whole : Format.single.Precise (x.truncate32.natAbs % y.truncate32.natAbs) →
      z.Finite ∧ z.rank.natAbs ≤ divisorUnits y ∧
        (z.rank.natAbs = divisorUnits y ↔
          x.AtLeast 0x80000000 ∧ CoarsePower y.truncate32.natAbs) := by
    intro precise
    obtain ⟨finite, less⟩ := lt_of_precise made ne precise
    exact ⟨finite, Nat.le_of_lt less, fun same => absurd same (Nat.ne_of_lt less), reaches⟩
  rcases precise_remainder x y with precise | ⟨above, top, precise⟩
  · exact whole precise
  · by_cases rounded : Format.single.Precise ((2 ^ 31 - 1) % y.truncate32.natAbs)
    · exact whole (by rw [top]; exact rounded)
    · obtain ⟨finite, le, power⟩ := le_of_top made ne top precise rounded
      exact ⟨finite, le, fun same => ⟨above, power same⟩, reaches⟩

/-- The remainder of infinity by minus infinity is as great as its clamped divisor. -/
theorem remainder_le_infinite :
    ∃ z : Single, remainder (.infinite false) (.infinite true) ⟨0, 9⟩ = .ok z ∧ z.Finite ∧
      z.rank.natAbs = divisorUnits (.infinite true) := by
  have ne : truncate32 (.infinite true : Single) ≠ 0 := by decide
  have done : remainder (.infinite false) (.infinite true) ⟨0, 9⟩ = .ok (.ofInt _) :=
    remainder_ok_iff.2 ⟨ne, rfl⟩
  obtain ⟨finite, -, reaches⟩ := remainder_le done
  exact ⟨_, done, finite, reaches.2 ⟨by decide +kernel, 31, by decide, by decide, rfl⟩⟩

/-- A remainder need not be smaller than its divisor: that of two to the 31, which is clamped to the
integer below, by two to the 25 is two to the 25. -/
theorem remainder_not_below_divisor :
    ¬ ∀ (x y z : Single) (span : Span), remainder x y span = .ok z →
      z.rank.natAbs < divisorUnits y := by
  intro below
  have ne : truncate32 (Binary.ofInt 0x2000000 : Single) ≠ 0 := by decide +kernel
  have less := below (Binary.ofInt 0x80000000) (Binary.ofInt 0x2000000) _ ⟨0, 21⟩
    (remainder_ok_iff.2 ⟨ne, rfl⟩)
  exact absurd less (by decide +kernel)

end Value
end Scriptlet
