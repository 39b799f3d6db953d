import Scriptlet.Host.Conversion
import Scriptlet.Proofs.Number.Rounding

/-
  Numbers as integers.
  A host parameter for integers takes what one for numbers takes, rounded to the nearest integer and
  clamped to a range (`RoundedWithin`). The rounding is monotone (`toRange_mono`), an integral
  number within the range is kept (`Integral.toRange`), and turned back it is the same number
  (`Integral.equals_ofInt`). Main statement: `Value.integer_slots_coherent`.
-/

namespace Scriptlet

namespace Binary

variable {f : Format} {x y : Binary f} {n k low high : Int}

/-- The integer that a number becomes within a range: zero for what is not a number, a bound for an
infinity, and else the nearest integer, clamped to the range. -/
inductive RoundedWithin (low high : Int) : Binary f → Int → Prop
  | nan : RoundedWithin low high nan 0
  | infinite (negative : Bool) :
    RoundedWithin low high (infinite negative) (if negative then low else high)
  | finite {x : Binary f} {n : Int} (finite : x.Finite)
    (nearest : NearestWhole x.rank (2 ^ f.scale) n) : RoundedWithin low high x (clamp low high n)

/-! ## The nearest integer -/

/-- The integer nearest to a number of units with a sign. -/
def signedWhole (f : Format) (negative : Bool) (units : Nat) : Int :=
  if negative then -(Format.halfEven units (2 ^ f.scale) : Int)
  else (Format.halfEven units (2 ^ f.scale) : Int)

theorem toRange_finite (negative : Bool) (units : Nat) (fits : f.Fits units) :
    (finite negative units fits).toRange toNearest low high =
      clamp low high (signedWhole f negative units) := by
  unfold toRange toNearest signedWhole
  dsimp only
  rw [Nat.one_shiftLeft]

theorem nearestWhole_signedWhole (negative : Bool) (units : Nat) (fits : f.Fits units) :
    NearestWhole (finite negative units fits).rank (2 ^ f.scale)
      (signedWhole f negative units) := by
  have nearest : NearestWhole units (2 ^ f.scale) (Format.halfEven units (2 ^ f.scale)) :=
    Format.nearestWhole_halfEven (Nat.two_pow_pos f.scale)
  cases negative with
  | true => exact nearest.neg
  | false => exact nearest

theorem roundedWithin_toRange (low high : Int) (x : Binary f) :
    RoundedWithin low high x (x.toRange toNearest low high) := by
  cases x with
  | nan => exact .nan
  | infinite negative => exact .infinite negative
  | finite negative units fits =>
    rw [toRange_finite]
    exact .finite ⟨_, _, fits, rfl⟩ (nearestWhole_signedWhole negative units fits)

/-! ## Monotony -/

theorem clamp_mono (le : n ≤ k) (range : low ≤ high) : clamp low high n ≤ clamp low high k := by
  unfold clamp
  split <;> split <;> (try split) <;> omega

theorem clamp_within (range : low ≤ high) (n : Int) :
    low ≤ clamp low high n ∧ clamp low high n ≤ high := by
  unfold clamp
  split
  · omega
  · split <;> omega

theorem clamp_of_within (le : low ≤ n) (le' : n ≤ high) : clamp low high n = n := by
  unfold clamp
  rw [if_neg (Int.not_lt.2 le), if_neg (Int.not_lt.2 le')]

theorem halfEven_zero (f : Format) : Format.halfEven 0 (2 ^ f.scale) = 0 := by
  have exact := Format.halfEven_mul 0 (Nat.two_pow_pos f.scale)
  rwa [Nat.zero_mul] at exact

theorem signedWhole_mono {p q : Bool} {m m' : Nat} {fits : f.Fits m} {fits' : f.Fits m'}
    (le : (finite p m fits).rank ≤ (finite q m' fits').rank) :
    signedWhole f p m ≤ signedWhole f q m' := by
  have up {a b : Nat} (le : a ≤ b) :
      Format.halfEven a (2 ^ f.scale) ≤ Format.halfEven b (2 ^ f.scale) :=
    Format.halfEven_mono_num le
  unfold rank at le
  unfold signedWhole
  cases p <;> cases q <;> simp only [Bool.false_eq_true, if_true, if_false] at le ⊢
  · exact Int.ofNat_le.2 (up (by omega))
  · -- from plus to minus the order goes only between zeros
    have zero : m = 0 ∧ m' = 0 := by omega
    rw [zero.1, zero.2, halfEven_zero]
    omega
  · omega
  · have := up (a := m') (b := m) (by omega)
    omega

theorem rank_finite_lt (negative : Bool) {units : Nat} (fits : f.Fits units) :
    (finite negative units fits).rank.natAbs < 1 <<< f.ceiling := by
  rw [natAbs_rank_finite]
  exact fits.1

/-- The greater number does not become the lesser integer. -/
theorem toRange_mono (hx : x ≠ nan) (hy : y ≠ nan) (le : x.rank ≤ y.rank) (range : low ≤ high) :
    x.toRange toNearest low high ≤ y.toRange toNearest low high := by
  cases x with
  | nan => exact absurd rfl hx
  | infinite p =>
    cases y with
    | nan => exact absurd rfl hy
    | infinite q =>
      have top : 0 < 1 <<< f.ceiling := Nat.one_shiftLeft _ ▸ Nat.two_pow_pos _
      cases p <;> cases q
      · exact Int.le_refl high
      · have crossed : ((1 <<< f.ceiling : Nat) : Int) ≤ -(1 <<< f.ceiling : Nat) := le
        omega
      · exact range
      · exact Int.le_refl low
    | finite q m fits =>
      have small := rank_finite_lt q fits
      rw [toRange_finite]
      cases p with
      | true => exact (clamp_within range _).1
      | false =>
        have top : (1 <<< f.ceiling : Nat) ≤ (finite q m fits).rank := le
        omega
  | finite p m fits =>
    rw [toRange_finite]
    cases y with
    | nan => exact absurd rfl hy
    | infinite q =>
      have small := rank_finite_lt p fits
      cases q with
      | true =>
        have bottom : (finite p m fits).rank ≤ -(1 <<< f.ceiling : Nat) := le
        omega
      | false => exact (clamp_within range _).2
    | finite q m' fits' =>
      rw [toRange_finite]
      exact clamp_mono (signedWhole_mono le) range

theorem ordered_of_below_or_equals (h : x.below y = true ∨ x.equals y = true) :
    x ≠ nan ∧ y ≠ nan ∧ x.rank ≤ y.rank := by
  rcases h with less | same
  · unfold Binary.below compare? at less
    split at less
    · exact absurd less (by decide)
    next both =>
      rw [Bool.or_eq_true, not_or] at both
      have ranks : compare x.rank y.rank = .lt := Option.some.inj (eq_of_beq less)
      refine ⟨?_, ?_, Int.le_of_lt (compare_lt_iff_lt.1 ranks)⟩
      · rintro rfl
        exact both.1 rfl
      · rintro rfl
        exact both.2 rfl
  · obtain ⟨hx, hy, ranks⟩ := equals_iff_rank.1 same
    exact ⟨hx, hy, Int.le_of_eq ranks⟩

/-! ## Integral numbers -/

/-- The number is finite and has no fraction: it is the integer `k`. -/
structure Integral (x : Binary f) (k : Int) : Prop where
  finite : x.Finite
  rank : x.rank = k * (2 ^ f.scale : Nat)

theorem Integral.whole_eq (h : x.Integral k) : x.whole = k := by
  have unit : ((2 ^ f.scale : Nat) : Int) ≠ 0 :=
    Int.natCast_ne_zero.2 (Nat.pos_iff_ne_zero.1 (Nat.two_pow_pos _))
  unfold whole
  rw [h.rank, Int.mul_tdiv_cancel _ unit]

theorem Integral.units {negative : Bool} {units : Nat} {fits : f.Fits units}
    (h : (Binary.finite negative units fits).Integral k) : units = k.natAbs * 2 ^ f.scale := by
  rw [← natAbs_rank_finite negative units fits, h.rank, Int.natAbs_mul, Int.natAbs_natCast]

theorem Integral.signedWhole {negative : Bool} {units : Nat} {fits : f.Fits units}
    (h : (Binary.finite negative units fits).Integral k) : signedWhole f negative units = k := by
  have unit : (0 : Int) < (2 ^ f.scale : Nat) := Int.natCast_pos.2 (Nat.two_pow_pos _)
  have rank := h.rank
  unfold Binary.rank at rank
  unfold Binary.signedWhole
  rw [h.units, Format.halfEven_mul _ (Nat.two_pow_pos _)]
  cases negative with
  | true =>
    have minus : k * (2 ^ f.scale : Nat) ≤ 0 := by
      rw [← rank]
      exact Int.neg_nonpos_of_nonneg (Int.natCast_nonneg _)
    have sign : k ≤ 0 := Int.not_lt.1 fun plus => Int.not_lt.2 minus (Int.mul_pos plus unit)
    exact (show -(k.natAbs : Int) = k by omega)
  | false =>
    have plus : 0 ≤ k * (2 ^ f.scale : Nat) := by
      rw [← rank]
      exact Int.natCast_nonneg _
    have sign : 0 ≤ k := Int.nonneg_of_mul_nonneg_left plus unit
    exact (show (k.natAbs : Int) = k by omega)

/-- An integral number within the range is not changed. -/
theorem Integral.toRange (h : x.Integral k) (le : low ≤ k) (le' : k ≤ high) :
    x.toRange toNearest low high = k := by
  obtain ⟨negative, units, fits, rfl⟩ := h.finite
  rw [toRange_finite, h.signedWhole, clamp_of_within le le']

/-- The integer that an integral number is, turned back, is that number. -/
theorem Integral.equals_ofInt (h : x.Integral k) : (ofInt k : Binary f).equals x = true := by
  have precise := h.finite.precise_whole
  rw [h.whole_eq] at precise
  obtain ⟨negative, units, fits, rfl⟩ := h.finite
  have bound : k.natAbs * 2 ^ f.scale < 2 ^ f.ceiling := by
    rw [← h.units]
    exact (Format.fits_iff.1 fits).1
  have exact := exactly_ofInt bound precise
  refine equals_iff_rank.2 ⟨?_, nofun, exact.rank_eq.trans h.rank.symm⟩
  obtain ⟨fits', made⟩ := exact
  rw [made]
  exact nofun

end Binary

namespace Value

open Binary

variable {v w : Value} {x y : Single} {type : ParamType}

/-! ## Conversions -/

theorem convert_single_eq_ok_iff : v.convert .single = .ok x ↔ v.toSingle? = some x := by
  unfold convert convert?
  cases v.toSingle? with
  | none => simp
  | some y => simp

theorem convert_int64_of_single (h : v.convert .single = .ok x) :
    v.convert .int64 = .ok x.round64 := by
  unfold convert convert?
  rw [convert_single_eq_ok_iff.1 h]
  rfl

theorem convert_int32_of_single (h : v.convert .single = .ok x) :
    v.convert .int32 = .ok x.round32 := by
  unfold convert convert?
  rw [convert_single_eq_ok_iff.1 h]
  rfl

/-- The parameter types for numbers refuse the same values. -/
theorem numeric_convertible_iff (numeric : type ∈ [.double, .int32, .int64]) :
    (∃ a, v.convert type = .ok a) ↔ ∃ x, v.convert .single = .ok x := by
  simp only [List.mem_cons, List.not_mem_nil, or_false] at numeric
  unfold convert convert?
  rcases numeric with rfl | rfl | rfl <;> cases v.toSingle? <;> simp

/-- Clamping to 64 bits before clamping to 32 bits makes no difference. -/
theorem round32_eq_clamp (x : Single) :
    x.round32 = clamp range32.1 range32.2 x.round64 := by
  unfold round32 round64
  cases x with
  | nan => rfl
  | infinite negative => cases negative <;> rfl
  | finite negative units fits =>
    rw [toRange_finite, toRange_finite]
    unfold clamp range32 range64
    dsimp only
    repeat' split
    all_goals omega

/-- The integer slots are coherent: they take the values that the slots for numbers take; what
becomes the number `x` becomes the integer nearest to `x`, ties going to the even one, within 64
bits, zero for what is not a number and the bounds for the infinities, and that integer clamped to
32 bits; greater numbers do not become lesser integers; and an integral number within the range
becomes the integer it is, which is turned back into an equal number. -/
theorem integer_slots_coherent :
    (∀ (v : Value) (type : ParamType), type ∈ [.double, .int32, .int64] →
      ((∃ a, v.convert type = .ok a) ↔ ∃ x, v.convert .single = .ok x)) ∧
    (∀ (v : Value) (x : Single), v.convert .single = .ok x →
      ∃ n : Int, v.convert .int64 = .ok n ∧
        RoundedWithin (-0x8000000000000000) 0x7fffffffffffffff x n ∧
        v.convert .int32 = .ok (clamp (-0x80000000) 0x7fffffff n)) ∧
    (∀ (v w : Value) (x y : Single), v.convert .single = .ok x → w.convert .single = .ok y →
      (x.below y = true ∨ x.equals y = true) →
      (∃ n k : Int, v.convert .int64 = .ok n ∧ w.convert .int64 = .ok k ∧ n ≤ k) ∧
      ∃ n k : Int, v.convert .int32 = .ok n ∧ w.convert .int32 = .ok k ∧ n ≤ k) ∧
    (∀ (v : Value) (x : Single) (k : Int), v.convert .single = .ok x → x.Integral k →
      (∃ z, Value.ofInt k = .number z ∧ z.equals x = true) ∧
      (-0x8000000000000000 ≤ k → k ≤ 0x7fffffffffffffff → v.convert .int64 = .ok k) ∧
      (-0x80000000 ≤ k → k ≤ 0x7fffffff → v.convert .int32 = .ok k)) := by
  refine ⟨fun v type => numeric_convertible_iff, fun v x hx => ?_, fun v w x y hx hy order => ?_,
    fun v x k hx integral => ⟨⟨_, rfl, integral.equals_ofInt⟩, fun low high => ?_,
      fun low high => ?_⟩⟩
  · refine ⟨_, convert_int64_of_single hx, roundedWithin_toRange _ _ x, ?_⟩
    rw [convert_int32_of_single hx, round32_eq_clamp]
    rfl
  · obtain ⟨notX, notY, le⟩ := ordered_of_below_or_equals order
    refine ⟨⟨_, _, convert_int64_of_single hx, convert_int64_of_single hy, ?_⟩, ⟨_, _,
      convert_int32_of_single hx, convert_int32_of_single hy, ?_⟩⟩
    · exact toRange_mono notX notY le (by decide)
    · exact toRange_mono notX notY le (by decide)
  · rw [convert_int64_of_single hx]
    exact congrArg Except.ok (integral.toRange low high)
  · rw [convert_int32_of_single hx]
    exact congrArg Except.ok (integral.toRange low high)

/-- Two and a half, as text, is rounded to the even one of its neighbours, and it is below three
thousand million, which is itself in 64 bits and the greatest integer in 32. -/
theorem integer_slots_coherent_tie :
    ∃ x y : Single, (Value.string " 2.5 ").convert .single = .ok x ∧
      (Value.number 3000000000).convert .single = .ok y ∧
      (∃ a, (Value.string " 2.5 ").convert .double = .ok a) ∧
      (Value.string " 2.5 ").convert .int64 = .ok 2 ∧
      RoundedWithin (-0x8000000000000000) 0x7fffffffffffffff x 2 ∧
      (∃ n k : Int, (Value.string " 2.5 ").convert .int64 = .ok n ∧
        (Value.number 3000000000).convert .int64 = .ok k ∧ n ≤ k) ∧
      (Value.number 3000000000).convert .int64 = .ok (3000000000 : Int) ∧
      (Value.number 3000000000).convert .int32 = .ok (0x7fffffff : Int) := by
  have hx : (Value.string " 2.5 ").convert .single = .ok (.ofQuotient false (5 <<< 148) 1) := by
    decide +kernel
  have hy : (Value.number 3000000000).convert .single = .ok 3000000000 := rfl
  have order : (Binary.ofQuotient false (5 <<< 148) 1 : Single).below 3000000000 = true := by
    decide +kernel
  have integral : (3000000000 : Single).Integral 3000000000 :=
    ⟨⟨false, 3000000000 <<< 149, by decide +kernel, by decide +kernel⟩, by decide +kernel⟩
  obtain ⟨accepted, rounded, monotone, exact⟩ := integer_slots_coherent
  have even : (Value.string " 2.5 ").convert .int64 = .ok (2 : Int) := by decide +kernel
  obtain ⟨n, made, nearest, -⟩ := rounded _ _ hx
  obtain ⟨k, made', -, clamped⟩ := rounded _ _ hy
  have whole := (exact _ _ _ hy integral).2.1 (by decide) (by decide)
  refine ⟨_, _, hx, hy, (accepted _ .double (by decide)).2 ⟨_, hx⟩, even, ?_,
    (monotone _ _ _ _ hx hy (.inl order)).1, whole, ?_⟩
  · rwa [Except.ok.inj (made.symm.trans even)] at nearest
  · rw [clamped, Except.ok.inj (made'.symm.trans whole)]
    rfl

end Value

end Scriptlet
