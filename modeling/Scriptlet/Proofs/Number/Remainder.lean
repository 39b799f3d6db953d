import Scriptlet.Proofs.Number.Text
import Scriptlet.Value.Operand

/-
  Whole numbers of few significant bits.
  A magnitude fits a format if it is small enough and has no more significant bits than the
  precision, wherever these stand (`Format.fits_iff`). Such magnitudes stay so when they are
  multiplied or divided by a power of two, and so does the remainder of one by another
  (`Format.Precise.mod`): it is a multiple of the lower of the two last bits, and below what has the
  higher one. So a remainder of 32-bit operands is not rounded when it is turned back into a number.
  Main statement: `Value.remainder_exact`.
-/

namespace Scriptlet

namespace Format

variable {f : Format} {m n : Nat}

/-- The magnitude has no more significant bits than the precision. -/
def Precise (f : Format) (m : Nat) : Prop :=
  ∃ digits place, digits < 2 ^ f.precision ∧ m = digits * 2 ^ place

theorem slack_le {place : Nat} (ne : m ≠ 0) (below : m < 2 ^ (f.precision + place)) :
    f.slack m ≤ place := by
  have top : m.log2 < f.precision + place := (Nat.log2_lt ne).2 below
  unfold slack
  omega

theorem lt_two_pow_slack (f : Format) (m : Nat) : m < 2 ^ (f.precision + f.slack m) := by
  have above : m < 2 ^ (m.log2 + 1) := Nat.lt_log2_self
  refine Nat.lt_of_lt_of_le above (Nat.pow_le_pow_right (by decide) ?_)
  unfold slack
  omega

theorem precise_iff : f.Precise m ↔ m % 2 ^ f.slack m = 0 := by
  constructor
  · rintro ⟨digits, place, few, rfl⟩
    by_cases zero : digits * 2 ^ place = 0
    · rw [zero, Nat.zero_mod]
    · have below : digits * 2 ^ place < 2 ^ (f.precision + place) := by
        rw [Nat.pow_add]
        exact Nat.mul_lt_mul_of_pos_right few (Nat.two_pow_pos place)
      have divides := Nat.pow_dvd_pow 2 (slack_le zero below)
      exact Nat.mod_eq_zero_of_dvd (Nat.dvd_mul_left_of_dvd divides digits)
  · intro grid
    obtain ⟨digits, split⟩ := Nat.dvd_of_mod_eq_zero grid
    rw [Nat.mul_comm] at split
    refine ⟨digits, f.slack m, ?_, split⟩
    have below : digits * 2 ^ f.slack m < 2 ^ f.precision * 2 ^ f.slack m :=
      calc digits * 2 ^ f.slack m = m := split.symm
        _ < 2 ^ (f.precision + f.slack m) := f.lt_two_pow_slack m
        _ = 2 ^ f.precision * 2 ^ f.slack m := Nat.pow_add _ _ _
    exact Nat.lt_of_mul_lt_mul_right below

/-- A magnitude fits if it is below the ceiling and has few enough significant bits. -/
theorem fits_iff : f.Fits m ↔ m < 2 ^ f.ceiling ∧ f.Precise m := by
  unfold Fits
  rw [precise_iff, Nat.one_shiftLeft, Nat.one_shiftLeft]

theorem Precise.mul_two_pow (h : f.Precise m) (scale : Nat) : f.Precise (m * 2 ^ scale) := by
  obtain ⟨digits, place, few, rfl⟩ := h
  refine ⟨digits, place + scale, few, ?_⟩
  rw [Nat.pow_add, Nat.mul_assoc]

/-- Bits that are cut off do not add to the significant ones. -/
theorem Precise.div_two_pow (h : f.Precise m) (scale : Nat) : f.Precise (m / 2 ^ scale) := by
  obtain ⟨digits, place, few, rfl⟩ := h
  rcases Nat.le_total scale place with le | le
  · refine ⟨digits, place - scale, few, ?_⟩
    obtain ⟨more, rfl⟩ := Nat.exists_eq_add_of_le le
    rw [Nat.add_sub_cancel_left, Nat.pow_add, Nat.mul_left_comm]
    exact Nat.mul_div_cancel_left _ (Nat.two_pow_pos scale)
  · obtain ⟨more, rfl⟩ := Nat.exists_eq_add_of_le le
    refine ⟨digits / 2 ^ more, 0, Nat.lt_of_le_of_lt (Nat.div_le_self _ _) few, ?_⟩
    rw [Nat.pow_add, Nat.pow_zero, Nat.mul_one, Nat.mul_comm (2 ^ place)]
    exact Nat.mul_div_mul_right _ _ (Nat.two_pow_pos place)

/-- The remainder is a multiple of the lower of the two last bits, and small enough for that. -/
theorem Precise.mod (hm : f.Precise m) (hn : f.Precise n) : f.Precise (m % n) := by
  obtain ⟨a, i, fewA, rfl⟩ := hm
  obtain ⟨b, j, fewB, rfl⟩ := hn
  rcases Nat.le_total i j with le | le
  · have divides : 2 ^ i ∣ b * 2 ^ j := Nat.dvd_mul_left_of_dvd (Nat.pow_dvd_pow 2 le) b
    obtain ⟨c, split⟩ := (Nat.dvd_mod_iff divides).2 (Nat.dvd_mul_left (2 ^ i) a)
    rw [Nat.mul_comm (2 ^ i) c] at split
    have small : c * 2 ^ i ≤ a * 2 ^ i := split ▸ Nat.mod_le _ _
    have few := Nat.le_of_mul_le_mul_right small (Nat.two_pow_pos i)
    exact ⟨c, i, Nat.lt_of_le_of_lt few fewA, split⟩
  · by_cases zero : b = 0
    · rw [zero, Nat.zero_mul, Nat.mod_zero]
      exact ⟨a, i, fewA, rfl⟩
    · have divides : 2 ^ j ∣ a * 2 ^ i := Nat.dvd_mul_left_of_dvd (Nat.pow_dvd_pow 2 le) a
      obtain ⟨c, split⟩ := (Nat.dvd_mod_iff (Nat.dvd_mul_left (2 ^ j) b)).2 divides
      rw [Nat.mul_comm (2 ^ j) c] at split
      have pos : 0 < b * 2 ^ j := Nat.mul_pos (Nat.pos_of_ne_zero zero) (Nat.two_pow_pos j)
      have small : c * 2 ^ j < b * 2 ^ j := split ▸ Nat.mod_lt _ pos
      have few := Nat.lt_of_mul_lt_mul_right small
      exact ⟨c, j, Nat.lt_trans few fewB, split⟩

end Format

namespace Binary

variable {f : Format} {x y : Binary f} {n : Int}

/-- The number is finite. -/
def Finite (x : Binary f) : Prop :=
  ∃ negative units fits, x = .finite negative units fits

/-- The number without its fraction. -/
def whole (x : Binary f) : Int :=
  x.rank.tdiv (2 ^ f.scale : Nat)

/-- The number is the whole number `n`, neither more nor less, without a minus sign if that is
zero. -/
def Exactly (x : Binary f) (n : Int) : Prop :=
  ∃ fits, x = .finite (n < 0) (n.natAbs * 2 ^ f.scale) fits

theorem Exactly.finite (h : x.Exactly n) : x.Finite := by
  obtain ⟨fits, rfl⟩ := h
  exact ⟨_, _, fits, rfl⟩

theorem Exactly.rank_eq (h : x.Exactly n) : x.rank = n * (2 ^ f.scale : Nat) := by
  obtain ⟨fits, rfl⟩ := h
  unfold Binary.rank
  dsimp only
  split
  next negative =>
    have minus : n = -(n.natAbs : Int) := by have := of_decide_eq_true negative; omega
    conv => rhs; rw [minus]
    rw [Int.natCast_mul, Int.neg_mul]
  next positive =>
    have plus : n = (n.natAbs : Int) := by have := mt decide_eq_true positive; omega
    conv => rhs; rw [plus]
    rw [Int.natCast_mul]

theorem Exactly.whole_eq (h : x.Exactly n) : x.whole = n := by
  have pos : ((2 ^ f.scale : Nat) : Int) ≠ 0 :=
    Int.natCast_ne_zero.2 (Nat.pos_iff_ne_zero.1 (Nat.two_pow_pos _))
  unfold whole
  rw [h.rank_eq, Int.mul_tdiv_cancel _ pos]

/-- A whole number of few significant bits is not rounded. -/
theorem exactly_ofInt (bound : n.natAbs * 2 ^ f.scale < 2 ^ f.ceiling)
    (precise : f.Precise n.natAbs) : (ofInt n : Binary f).Exactly n := by
  have fits : f.Fits (n.natAbs * 2 ^ f.scale) :=
    Format.fits_iff.2 ⟨bound, precise.mul_two_pow f.scale⟩
  have same : f.nearest (n.natAbs * 2 ^ f.scale) 1 = n.natAbs * 2 ^ f.scale := by
    have exact := Format.nearest_exact fits Nat.one_pos
    rwa [Nat.mul_one] at exact
  refine ⟨fits, ?_⟩
  unfold ofInt ofQuotient
  simp only [Nat.shiftLeft_eq, same]
  exact dif_pos fits

theorem natAbs_whole (negative : Bool) (units : Nat) (fits : f.Fits units) :
    (whole (.finite negative units fits)).natAbs = units / 2 ^ f.scale := by
  unfold whole
  rw [Int.natAbs_tdiv, natAbs_rank_finite]
  rfl

/-- Without its fraction a finite number has no more significant bits than before. -/
theorem Finite.precise_whole (h : x.Finite) : f.Precise x.whole.natAbs := by
  obtain ⟨negative, units, fits, rfl⟩ := h
  rw [natAbs_whole]
  exact (Format.fits_iff.1 fits).2.div_two_pow f.scale

/-- The number is finite, and without its fraction it is an integer of 32 bits. -/
structure Within32 (x : Binary f) : Prop where
  finite : x.Finite
  low : range32.1 ≤ x.whole
  high : x.whole ≤ range32.2

theorem Exactly.within32 (h : x.Exactly n) (low : range32.1 ≤ n) (high : n ≤ range32.2) :
    x.Within32 :=
  ⟨h.finite, h.whole_eq.symm ▸ low, h.whole_eq.symm ▸ high⟩

/-- A finite number is truncated to itself without its fraction, clamped to 32 bits. -/
theorem Finite.truncate32 (h : x.Finite) :
    x.truncate32 = clamp range32.1 range32.2 x.whole := by
  obtain ⟨negative, units, fits, rfl⟩ := h
  have cut : (if negative then -((units / (1 <<< f.scale) : Nat) : Int)
      else ((units / (1 <<< f.scale) : Nat) : Int)) = whole (.finite negative units fits) := by
    rw [Nat.one_shiftLeft]
    cases negative with
    | true => exact (Int.neg_tdiv (units : Int) (2 ^ f.scale : Nat)).symm
    | false => rfl
  unfold Binary.truncate32 toRange towardZero
  dsimp only
  rw [cut]

/-- A number within 32 bits is truncated without being clamped. -/
theorem Within32.truncate32 (h : x.Within32) : x.truncate32 = x.whole := by
  rw [h.finite.truncate32]
  unfold clamp
  rw [if_neg (Int.not_lt.2 h.low), if_neg (Int.not_lt.2 h.high)]

end Binary

namespace Value

open Binary

/-- The remainder of two numbers within 32 bits fails exactly if the divisor is zero without its
fraction. Otherwise it is the integer remainder of both without their fractions, exactly: zero or a
number with the sign of the dividend, and smaller than the divisor. -/
theorem remainder_exact {x y : Single} (hx : x.Within32) (hy : y.Within32) (span : Span) :
    (y.whole = 0 → ∃ d, remainder x y span = .error (.diagnostic d) ∧
      d.kind = .arithmetic ∧ d.span = some span) ∧
    (y.whole ≠ 0 → ∃ z r, remainder x y span = .ok z ∧ z.Exactly r ∧
      r = x.whole - y.whole * x.whole.tdiv y.whole ∧
      (r = 0 ∨ r.sign = x.whole.sign) ∧ r.natAbs < y.whole.natAbs) := by
  unfold remainder
  dsimp only
  rw [hx.truncate32, hy.truncate32]
  constructor
  · intro zero
    rw [if_pos zero]
    exact ⟨_, rfl, rfl, rfl⟩
  · intro ne
    rw [if_neg ne]
    have magnitude := Int.natAbs_tmod x.whole y.whole
    refine ⟨_, _, rfl, exactly_ofInt ?_ ?_, Int.tmod_def _ _, ?_, ?_⟩
    · -- 32 bits are far below the ceiling
      have small : x.whole.natAbs ≤ 2 ^ 31 := by
        have low := hx.low
        have high := hx.high
        unfold range32 at low high
        dsimp only at low high
        omega
      have less : (x.whole.tmod y.whole).natAbs ≤ 2 ^ 31 :=
        magnitude ▸ Nat.le_trans (Nat.mod_le _ _) small
      have room : 2 ^ 31 * 2 ^ Format.single.scale < 2 ^ Format.single.ceiling := by
        rw [← Nat.pow_add]
        exact Nat.pow_lt_pow_right (by decide) (by decide)
      exact Nat.lt_of_le_of_lt (Nat.mul_le_mul_right _ less) room
    · rw [magnitude]
      exact hx.finite.precise_whole.mod hy.finite.precise_whole
    · rw [Int.sign_tmod]
      split
      next divides => exact .inl (Int.tmod_eq_zero_of_dvd divides)
      next => exact .inr rfl
    · rw [magnitude]
      exact Nat.mod_lt _ (Int.natAbs_pos.2 ne)

/-- The least integer of 32 bits has the remainder zero by minus one, though their quotient is out
of range. -/
theorem remainder_exact_least_by_minus_one :
    Within32 (Binary.ofInt (-0x80000000) : Single) ∧ Within32 (Binary.ofInt (-1) : Single) ∧
    ∃ z, remainder (Binary.ofInt (-0x80000000)) (Binary.ofInt (-1)) ⟨0, 16⟩ = .ok z ∧
      z.Exactly 0 := by
  have least : Exactly (Binary.ofInt (-0x80000000) : Single) (-0x80000000) :=
    exactly_ofInt (by decide +kernel) ⟨1, 31, by decide, by decide⟩
  have minusOne : Exactly (Binary.ofInt (-1) : Single) (-1) :=
    exactly_ofInt (by decide +kernel) ⟨1, 0, by decide, by decide⟩
  have hx := least.within32 (by decide) (by decide)
  have hy := minusOne.within32 (by decide) (by decide)
  have ne : whole (Binary.ofInt (-1) : Single) ≠ 0 := by rw [minusOne.whole_eq]; decide
  obtain ⟨z, r, done, exact, value, -, -⟩ := (remainder_exact hx hy ⟨0, 16⟩).2 ne
  rw [least.whole_eq, minusOne.whole_eq] at value
  have zero : r = 0 := value.trans (by decide)
  exact ⟨hx, hy, z, done, zero ▸ exact⟩

end Value

end Scriptlet
