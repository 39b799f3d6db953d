import Scriptlet.Proofs.Number.Saturation

/-
  Rounding to the nearest.
  The whole number that a quotient is rounded to is the nearest one, and the even one of two that
  are equally near (`nearestWhole_halfEven`). A magnitude is rounded in the same way, among those
  that have no more significant bits than the precision: no such magnitude is nearer than the one
  taken (`gap_nearest_le`), and of two equally near ones that with an even last digit is taken
  (`dvd_nearest_of_tie`). Both roundings are monotone (`halfEven_mono`, `nearest_mono`).
-/

namespace Scriptlet

/-- How far the whole number `n` is from `num / den`, in units of `1 / den`. -/
def gap (num : Int) (den : Nat) (n : Int) : Nat :=
  (n * den - num).natAbs

/-- `n` is the whole number nearest to `num / den`, and it is even if another one is as near. -/
structure NearestWhole (num : Int) (den : Nat) (n : Int) : Prop where
  near : ∀ k, gap num den n ≤ gap num den k
  even : ∀ k, k ≠ n → gap num den k = gap num den n → n % 2 = 0

section

variable {num n k : Int} {den : Nat}

theorem gap_neg (num : Int) (den : Nat) (n : Int) : gap (-num) den (-n) = gap num den n := by
  unfold gap
  rw [Int.neg_mul]
  omega

theorem NearestWhole.neg (h : NearestWhole num den n) : NearestWhole (-num) den (-n) where
  near k := by
    rw [gap_neg, ← Int.neg_neg k, gap_neg]
    exact h.near (-k)
  even k other tie := by
    rw [gap_neg, ← Int.neg_neg k, gap_neg] at tie
    have := h.even (-k) (fun same => other (by omega)) tie
    omega

/-- Two whole numbers are not both near. -/
theorem den_le_gap_add_gap (num : Int) (den : Nat) (other : k ≠ n) :
    den ≤ gap num den k + gap num den n := by
  have apart : (1 : Int) ≤ (k - n).natAbs := by omega
  have steps : (den : Int) ≤ (k - n).natAbs * den := by
    have := Int.mul_le_mul_of_nonneg_right apart (Int.natCast_nonneg den)
    rwa [Int.one_mul] at this
  have split : ((k - n).natAbs * den : Int) = (k * den - n * den).natAbs := by
    rw [← Int.sub_mul, Int.natAbs_mul, Int.natAbs_natCast, Int.natCast_mul]
  unfold gap
  omega

/-- What is at most half a step away is nearest. -/
theorem nearestWhole_of_half (half : 2 * gap num den n ≤ den)
    (even : 2 * gap num den n = den → n % 2 = 0) : NearestWhole num den n where
  near k := by
    by_cases same : k = n
    · rw [same]
    · have := den_le_gap_add_gap num den same
      omega
  even k other tie := by
    have := den_le_gap_add_gap num den other
    exact even (by omega)

end

namespace Format

variable {f : Format} {m num num' den den' whole : Nat}

/-! ## Whole numbers -/

theorem nearestWhole_halfEven (pos : 0 < den) :
    NearestWhole num den (halfEven num den) := by
  have split := Nat.div_add_mod' num den
  have rest := Nat.mod_lt num pos
  have product : (num / den + 1) * den = num / den * den + den := Nat.succ_mul _ _
  refine nearestWhole_of_half ?_ ?_ <;> unfold halfEven gap <;> dsimp only <;> split <;>
    rw [← Int.natCast_mul] <;> omega

theorem le_halfEven (pos : 0 < den) (le : whole * den ≤ num) : whole ≤ halfEven num den := by
  have below : whole ≤ num / den := (Nat.le_div_iff_mul_le pos).2 le
  unfold halfEven
  dsimp only
  split <;> omega

/-- A quotient is rounded alike however it is written. -/
theorem halfEven_scale (num den : Nat) {scale : Nat} (pos : 0 < scale) :
    halfEven (num * scale) (den * scale) = halfEven num den := by
  have size : 2 * (num % den * scale) = 2 * (num % den) * scale := by rw [Nat.mul_assoc]
  unfold halfEven
  rw [Nat.mul_div_mul_right _ _ pos, Nat.mul_mod_mul_right, size]
  simp only [Nat.mul_lt_mul_right pos, Nat.mul_left_inj (Nat.pos_iff_ne_zero.1 pos)]

theorem halfEven_mono_num (le : num ≤ num') : halfEven num den ≤ halfEven num' den := by
  have wholes : num / den ≤ num' / den := Nat.div_le_div_right le
  have split := Nat.div_add_mod' num den
  have split' := Nat.div_add_mod' num' den
  unfold halfEven
  dsimp only
  rcases Nat.lt_or_eq_of_le wholes with less | same
  · split <;> split <;> omega
  · rw [same] at split
    rw [same]
    split <;> split <;> omega

/-- The greater quotient is not rounded to the lesser whole number. -/
theorem halfEven_mono (pos : 0 < den) (pos' : 0 < den') (le : num * den' ≤ num' * den) :
    halfEven num den ≤ halfEven num' den' := by
  rw [← halfEven_scale num den pos', ← halfEven_scale num' den' pos, Nat.mul_comm den' den]
  exact halfEven_mono_num le

/-! ## Magnitudes -/

theorem nearest_eq (f : Format) (num den : Nat) :
    f.nearest num den =
      halfEven num (den * 2 ^ f.slack (num / den)) * 2 ^ f.slack (num / den) := by
  unfold nearest
  simp only [Nat.shiftLeft_eq]

/-- A magnitude that the precision leaves bits out of has all the others. -/
theorem two_pow_le_of_slack {quotient : Nat} (some : 0 < f.precision)
    (cut : 0 < f.slack quotient) : 2 ^ (f.precision - 1 + f.slack quotient) ≤ quotient := by
  have ne : quotient ≠ 0 := by
    rintro rfl
    unfold slack at cut
    rw [Nat.log2_zero] at cut
    omega
  have top := Nat.log2_self_le ne
  have exponent : f.precision - 1 + f.slack quotient = quotient.log2 := by
    unfold slack at cut ⊢
    omega
  rwa [exponent]

/-- What is above a magnitude on the grid is not rounded below it. -/
theorem le_nearest_of_dvd (pos : 0 < den) (grid : 2 ^ f.slack (num / den) ∣ m)
    (le : m * den ≤ num) : m ≤ f.nearest num den := by
  obtain ⟨whole, rfl⟩ := grid
  rw [nearest_eq, Nat.mul_comm (2 ^ _)]
  refine Nat.mul_le_mul_right _ (le_halfEven (Nat.mul_pos pos (Nat.two_pow_pos _)) ?_)
  rwa [Nat.mul_comm den, ← Nat.mul_assoc, Nat.mul_comm whole]

/-- With bits left out, the highest bit stays where it is. -/
theorem two_pow_le_nearest (some : 0 < f.precision) (pos : 0 < den)
    (cut : 0 < f.slack (num / den)) :
    2 ^ (f.precision - 1 + f.slack (num / den)) ≤ f.nearest num den := by
  refine le_nearest_of_dvd pos (Nat.pow_dvd_pow 2 (Nat.le_add_left _ _)) ?_
  exact (Nat.le_div_iff_mul_le pos).1 (two_pow_le_of_slack some cut)

theorem nearest_le_two_pow (pos : 0 < den) (num : Nat) :
    f.nearest num den ≤ 2 ^ (f.precision + f.slack (num / den)) := by
  have below := f.lt_two_pow_slack (num / den)
  have size : num < 2 ^ (f.precision + f.slack (num / den)) * den :=
    (Nat.div_lt_iff_lt_mul pos).1 below
  rw [nearest_eq, Nat.pow_add]
  refine Nat.mul_le_mul_right _ (halfEven_le ?_)
  rwa [Nat.mul_comm den, ← Nat.mul_assoc, ← Nat.pow_add]

theorem slack_mono (f : Format) {a b : Nat} (le : a ≤ b) : f.slack a ≤ f.slack b := by
  by_cases zero : a = 0
  · rw [zero]
    unfold slack
    rw [Nat.log2_zero]
    omega
  · exact slack_le zero (Nat.lt_of_le_of_lt le (f.lt_two_pow_slack b))

/-- The greater quotient is not rounded to the lesser magnitude. -/
theorem nearest_mono (some : 0 < f.precision) (pos : 0 < den) (pos' : 0 < den')
    (le : num * den' ≤ num' * den) : f.nearest num den ≤ f.nearest num' den' := by
  have quotients : num / den ≤ num' / den' := by
    rw [Nat.le_div_iff_mul_le pos']
    refine Nat.le_of_mul_le_mul_right ?_ pos
    calc num / den * den' * den = num / den * den * den' := Nat.mul_right_comm _ _ _
      _ ≤ num * den' := Nat.mul_le_mul_right _ (Nat.div_mul_le_self _ _)
      _ ≤ num' * den := le
  rcases Nat.lt_or_eq_of_le (f.slack_mono quotients) with coarser | same
  · -- between the two grids there is the power of two at which the coarser one begins
    calc f.nearest num den ≤ 2 ^ (f.precision + f.slack (num / den)) := nearest_le_two_pow pos num
      _ ≤ 2 ^ (f.precision - 1 + f.slack (num' / den')) :=
        Nat.pow_le_pow_right (by decide) (by omega)
      _ ≤ f.nearest num' den' := two_pow_le_nearest some pos' (Nat.zero_lt_of_lt coarser)
  · rw [nearest_eq, nearest_eq, same]
    have step := Nat.two_pow_pos (f.slack (num' / den'))
    refine Nat.mul_le_mul_right _ (halfEven_mono (Nat.mul_pos pos step) (Nat.mul_pos pos' step) ?_)
    rw [← Nat.mul_assoc, ← Nat.mul_assoc]
    exact Nat.mul_le_mul_right _ le

/-! ## The nearest magnitude -/

theorem gap_grid (num den step : Nat) (k : Int) :
    gap num den (k * step) = gap num (den * step) k := by
  unfold gap
  rw [Int.natCast_mul, Int.mul_assoc, Int.mul_comm (step : Int)]

/-- A magnitude that is not on the grid of the quotient is farther off than the power of two at
which the grid begins. -/
theorem gap_lt_of_not_dvd (some : 0 < f.precision) (pos : 0 < den) (precise : f.Precise m)
    (off : ¬ 2 ^ f.slack (num / den) ∣ m) :
    gap num den (2 ^ (f.precision - 1 + f.slack (num / den)) : Nat) < gap num den m := by
  have finer : f.slack m < f.slack (num / den) := by
    refine Nat.lt_of_not_le fun coarser => off ?_
    exact (Nat.pow_dvd_pow 2 coarser).trans (Nat.dvd_of_mod_eq_zero (precise_iff.1 precise))
  have below : m < 2 ^ (f.precision - 1 + f.slack (num / den)) :=
    Nat.lt_of_lt_of_le (f.lt_two_pow_slack m) (Nat.pow_le_pow_right (by decide) (by omega))
  have above := (Nat.le_div_iff_mul_le pos).1
    (two_pow_le_of_slack some (Nat.zero_lt_of_lt finer))
  have less := Nat.mul_lt_mul_of_pos_right below pos
  unfold gap
  rw [← Int.natCast_mul, ← Int.natCast_mul]
  omega

theorem gap_nearest (f : Format) (num den : Nat) : gap num den (f.nearest num den) =
    gap num (den * 2 ^ f.slack (num / den)) (halfEven num (den * 2 ^ f.slack (num / den))) := by
  rw [nearest_eq, Int.natCast_mul, gap_grid]

/-- No magnitude on the grid of the quotient is nearer than the one that is taken. -/
theorem gap_nearest_le_of_dvd (pos : 0 < den) (grid : 2 ^ f.slack (num / den) ∣ m) :
    gap num den (f.nearest num den) ≤ gap num den m := by
  obtain ⟨k, rfl⟩ := grid
  rw [gap_nearest, Nat.mul_comm (2 ^ _), Int.natCast_mul, gap_grid]
  exact (nearestWhole_halfEven (Nat.mul_pos pos (Nat.two_pow_pos _))).near k

/-- No magnitude that the precision allows is nearer than the one that is taken. -/
theorem gap_nearest_le (some : 0 < f.precision) (pos : 0 < den) (precise : f.Precise m) :
    gap num den (f.nearest num den) ≤ gap num den m := by
  by_cases grid : 2 ^ f.slack (num / den) ∣ m
  · exact gap_nearest_le_of_dvd pos grid
  · have begins := Nat.pow_dvd_pow 2 (Nat.le_add_left (f.slack (num / den)) (f.precision - 1))
    exact Nat.le_of_lt (Nat.lt_of_le_of_lt (gap_nearest_le_of_dvd pos begins)
      (gap_lt_of_not_dvd some pos precise grid))

/-- If another magnitude is as near as the one that is taken, the last digit of that is even on the
grid of the quotient. -/
theorem dvd_nearest_of_tie (some : 0 < f.precision) (pos : 0 < den) (precise : f.Precise m)
    (other : m ≠ f.nearest num den) (tie : gap num den m = gap num den (f.nearest num den)) :
    2 ^ (f.slack (num / den) + 1) ∣ f.nearest num den := by
  by_cases grid : 2 ^ f.slack (num / den) ∣ m
  · obtain ⟨k, rfl⟩ := grid
    rw [gap_nearest, Nat.mul_comm (2 ^ _), Int.natCast_mul, gap_grid] at tie
    rw [nearest_eq] at other ⊢
    have away : (k : Int) ≠ halfEven num (den * 2 ^ f.slack (num / den)) := by
      intro same
      rw [Int.ofNat.inj same, Nat.mul_comm] at other
      exact other rfl
    have even := (nearestWhole_halfEven (Nat.mul_pos pos (Nat.two_pow_pos _))).even k away tie
    obtain ⟨half, twice⟩ : 2 ∣ halfEven num (den * 2 ^ f.slack (num / den)) := by omega
    exact ⟨half, by rw [twice, Nat.pow_succ, Nat.mul_comm 2 half, Nat.mul_comm _ half,
      Nat.mul_assoc, Nat.mul_comm 2]⟩
  · have begins := Nat.pow_dvd_pow 2 (Nat.le_add_left (f.slack (num / den)) (f.precision - 1))
    have nearer := Nat.lt_of_le_of_lt (gap_nearest_le_of_dvd pos begins)
      (gap_lt_of_not_dvd some pos precise grid)
    omega

end Format

end Scriptlet
