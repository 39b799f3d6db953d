import Scriptlet.Proofs.Number.Numeral

/-
  Numbers and their texts.
  The text of a number reads back as that number (`readChars?_textChars`), so two numbers with one
  text are one number. Numeric equality is not the same relation: it takes the two zeros as equal
  and what is not a number as equal to nothing (`equals_iff`).
-/

namespace Scriptlet.Binary

variable {f : Format} {x y : Binary f}

/-- The text of a number reads back as the number, also where it is no numeral. -/
theorem readChars?_textChars (x : Binary f) : readChars? x.textChars = some x := by
  cases x with
  | nan => rfl
  | infinite negative => cases negative <;> rfl
  | finite negative units fits =>
    have reads := readUnsigned?_magnitudeText fits negative
    cases negative with
    | true => exact reads
    | false => exact (readChars?_eq_readUnsigned? (isNumeral_magnitudeText f units)).trans reads

theorem text_injective {x y : Binary f} (same : x.text = y.text) : x = y := by
  have chars : x.textChars = y.textChars := String.ofList_injective same
  have reads := readChars?_textChars x
  rw [chars, readChars?_textChars y] at reads
  exact (Option.some.inj reads).symm

/-! ## Numeric equality -/

/-- Both are zeros, and one of them has a minus sign. -/
def OppositeZeros (x y : Binary f) : Prop :=
  ∃ negative, x = zero negative ∧ y = zero !negative

theorem OppositeZeros.irrefl : ¬ x.OppositeZeros x := by
  rintro ⟨negative, rfl, same⟩
  cases negative with
  | false => cases same
  | true => cases same

theorem natAbs_rank_infinite (negative : Bool) :
    (infinite negative : Binary f).rank.natAbs = 2 ^ f.ceiling := by
  rw [← Nat.one_shiftLeft]
  cases negative with
  | false => exact Int.natAbs_natCast _
  | true => exact (Int.natAbs_neg _).trans (Int.natAbs_natCast _)

theorem natAbs_rank_finite (negative : Bool) (units : Nat) (fits : f.Fits units) :
    (finite negative units fits).rank.natAbs = units := by
  cases negative with
  | false => exact Int.natAbs_natCast _
  | true => exact (Int.natAbs_neg _).trans (Int.natAbs_natCast _)

/-- A finite number ranks below the infinity of its sign. -/
theorem rank_infinite_ne_finite (p q : Bool) {units : Nat} (fits : f.Fits units) :
    (infinite p : Binary f).rank ≠ (finite q units fits).rank := by
  intro same
  have magnitudes := congrArg Int.natAbs same
  rw [natAbs_rank_infinite, natAbs_rank_finite, ← Nat.one_shiftLeft] at magnitudes
  exact Nat.ne_of_gt fits.1 magnitudes

/-- With other signs only zero is the same number. -/
theorem signs_eq_or_zero {p q : Bool} {n : Nat}
    (same : (if p then -(n : Int) else n) = if q then -(n : Int) else n) : p = q ∨ n = 0 := by
  cases p with
  | false =>
    cases q with
    | false => exact .inl rfl
    | true =>
      have opposite : (n : Int) = -n := same
      exact .inr (by omega)
  | true =>
    cases q with
    | false =>
      have opposite : -(n : Int) = n := same
      exact .inr (by omega)
    | true => exact .inl rfl

theorem rank_infinite_injective {p q : Bool}
    (same : (infinite p : Binary f).rank = (infinite q : Binary f).rank) : p = q := by
  have pos : 0 < 1 <<< f.ceiling := Nat.one_shiftLeft _ ▸ Nat.two_pow_pos _
  exact (signs_eq_or_zero same).resolve_right (Nat.ne_of_gt pos)

/-- The rank of a number tells everything but the sign of a zero. -/
theorem rank_eq_iff (hx : x ≠ nan) (hy : y ≠ nan) :
    x.rank = y.rank ↔ x = y ∨ x.OppositeZeros y := by
  constructor
  · intro same
    cases x with
    | nan => exact absurd rfl hx
    | infinite p =>
      cases y with
      | nan => exact absurd rfl hy
      | infinite q => exact .inl (congrArg infinite (rank_infinite_injective same))
      | finite q units fits => exact absurd same (rank_infinite_ne_finite p q fits)
    | finite p units fits =>
      cases y with
      | nan => exact absurd rfl hy
      | infinite q => exact absurd same.symm (rank_infinite_ne_finite q p fits)
      | finite q units' fits' =>
        have magnitudes := congrArg Int.natAbs same
        rw [natAbs_rank_finite, natAbs_rank_finite] at magnitudes
        subst magnitudes
        by_cases signs : p = q
        · exact .inl (signs ▸ rfl)
        · have none : units = 0 := (signs_eq_or_zero same).resolve_left signs
          subst none
          have opposite : q = !p := (Bool.not_eq.2 signs).symm
          exact .inr ⟨p, rfl, opposite ▸ rfl⟩
  · rintro (rfl | ⟨negative, rfl, rfl⟩)
    · rfl
    · cases negative <;> rfl

theorem equals_iff_rank : x.equals y = true ↔ x ≠ nan ∧ y ≠ nan ∧ x.rank = y.rank := by
  unfold equals compare?
  cases x <;> cases y <;> simp [isNan]

/-- Numeric equality is equality but for the zeros and for what is not a number. -/
theorem equals_iff : x.equals y = true ↔ (x = y ∧ x ≠ nan) ∨ x.OppositeZeros y := by
  rw [equals_iff_rank]
  constructor
  · rintro ⟨hx, hy, same⟩
    exact ((rank_eq_iff hx hy).1 same).imp (⟨·, hx⟩) id
  · rintro (⟨rfl, hx⟩ | zeros)
    · exact ⟨hx, hx, rfl⟩
    · have hx : x ≠ nan := by obtain ⟨_, rfl, -⟩ := zeros; exact nofun
      have hy : y ≠ nan := by obtain ⟨_, -, rfl⟩ := zeros; exact nofun
      exact ⟨hx, hy, (rank_eq_iff hx hy).2 (.inr zeros)⟩

end Scriptlet.Binary
