import Scriptlet.Proofs.Number.CorrectRounding

/-
  Decimals written without a power of ten.
  A plain text has a minus or no sign, digits before the point and digits after it, none of which
  could be left out, and no point without digits after it (`Bare`, `SpellsPlain`). What is written
  for a decimal is such a text of it, unless its digits end in a zero behind the point. Main
  statement: `spellsPlain_positional`.
-/

namespace Scriptlet.Decimal

/-- Digits before and after a point, none of which could be left out. -/
structure Bare (whole places : List Char) : Prop where
  before : ∀ c ∈ whole, c.isDigit = true
  after : ∀ c ∈ places, c.isDigit = true
  some : whole ≠ []
  leading : whole.head? = Option.some '0' → whole = ['0']
  trailing : places.getLast? ≠ Option.some '0'

/-- Digits before and after a point, which is left out if there are none after it. -/
def pointed (whole places : List Char) : List Char :=
  whole ++ if places.isEmpty then [] else '.' :: places

/-- The text writes the decimal without a power of ten and without anything that could be left
out. -/
inductive SpellsPlain : List Char → Decimal → Prop
  | mk {whole places : List Char} {d : Decimal} (bare : Bare whole places)
    (equal : d.value =
      value ⟨d.negative, Nat.ofDigitChars 10 (whole ++ places) 0, -places.length⟩) :
    SpellsPlain ((if d.negative then ['-'] else []) ++ pointed whole places) d

/-! ## Digits of a number -/

theorem digitChars_ne_nil (n : Nat) : digitChars n ≠ [] :=
  Nat.toDigits_ne_nil

theorem head?_digitChars {n : Nat} (ne : n ≠ 0) : (digitChars n).head? ≠ Option.some '0' := by
  induction n using Nat.strongRecOn with
  | _ n ih =>
    unfold digitChars at *
    rcases Nat.lt_or_ge n 10 with less | ge
    · rw [Nat.toDigits_of_lt_base less]
      exact fun same => ne (Nat.digitChar_eq_zero.1 (Option.some.inj same))
    · rw [Nat.toDigits_of_base_le (by decide) ge,
        List.head?_append_of_ne_nil _ Nat.toDigits_ne_nil]
      exact ih (n / 10) (by omega) (by omega)

theorem getLast?_digitChars (n : Nat) :
    (digitChars n).getLast? = Option.some (Nat.digitChar (n % 10)) := by
  unfold digitChars
  rcases Nat.lt_or_ge n 10 with less | ge
  · rw [Nat.toDigits_of_lt_base less, Nat.mod_eq_of_lt less]
    rfl
  · rw [Nat.toDigits_of_base_le (by decide) ge, List.getLast?_concat]

/-- A number that ten does not divide ends in no zero. -/
theorem getLast?_digitChars_ne {n : Nat} (tidy : ¬ 10 ∣ n) :
    (digitChars n).getLast? ≠ Option.some '0' := by
  rw [getLast?_digitChars]
  exact fun same => tidy (Nat.dvd_of_mod_eq_zero (Nat.digitChar_eq_zero.1 (Option.some.inj same)))

/-! ## Writing -/

theorem pointed_nil (whole : List Char) : pointed whole [] = whole :=
  List.append_nil whole

theorem pointed_of_ne_nil (whole : List Char) {places : List Char} (ne : places ≠ []) :
    pointed whole places = whole ++ '.' :: places := by
  unfold pointed
  rw [if_neg (by simpa using ne)]

theorem bare_whole {digits exponent : Nat} (ne : digits = 0 → exponent = 0) :
    Bare (digitChars digits ++ List.replicate exponent '0') [] where
  before c mem := (List.mem_append.1 mem).elim (isDigit_of_mem_digitChars c)
    (isDigit_of_mem_zeros c)
  after _ mem := nomatch mem
  some := List.append_ne_nil_of_left_ne_nil (digitChars_ne_nil digits) _
  leading head := by
    have first : (digitChars digits).head? = Option.some '0' := by
      rwa [List.head?_append_of_ne_nil _ (digitChars_ne_nil digits)] at head
    have zero : digits = 0 := Decidable.byContradiction fun some => head?_digitChars some first
    rw [ne zero, zero]
    rfl
  trailing := nofun

section

variable {digits places : Nat} (tidy : ¬ 10 ∣ digits)
include tidy

theorem bare_inside (some : 0 < places) (inside : places < (digitChars digits).length) :
    Bare ((digitChars digits).take ((digitChars digits).length - places))
      ((digitChars digits).drop ((digitChars digits).length - places)) where
  before c mem := isDigit_of_mem_digitChars c (List.mem_of_mem_take mem)
  after c mem := isDigit_of_mem_digitChars c (List.mem_of_mem_drop mem)
  some := List.ne_nil_of_length_pos (by rw [List.length_take]; omega)
  leading head := by
    rw [List.head?_take, if_neg (by omega)] at head
    exact absurd head (head?_digitChars fun zero => tidy (zero ▸ Nat.dvd_zero 10))
  trailing := by
    rw [List.getLast?_drop, if_neg (by omega)]
    exact getLast?_digitChars_ne tidy

theorem bare_outside (zeros : Nat) :
    Bare ['0'] (List.replicate zeros '0' ++ digitChars digits) where
  before := List.forall_mem_singleton.2 rfl
  after c mem := (List.mem_append.1 mem).elim (isDigit_of_mem_zeros c)
    (isDigit_of_mem_digitChars c)
  some := List.cons_ne_nil _ _
  leading _ := rfl
  trailing := by
    rw [List.getLast?_append_of_ne_nil _ (digitChars_ne_nil digits)]
    exact getLast?_digitChars_ne tidy

end

/-- What is written without a power of ten is bare, unless there are zeros to leave out. -/
theorem exists_bare {digits : Nat} {exponent : Int} (ne : digits = 0 → exponent = 0)
    (tidy : exponent < 0 → ¬ 10 ∣ digits) :
    ∃ whole places, Bare whole places ∧ positional digits exponent = pointed whole places := by
  unfold positional
  dsimp only
  split
  next up => exact ⟨_, [], bare_whole fun zero => by rw [ne zero]; rfl, (pointed_nil _).symm⟩
  next down =>
    have tidy := tidy (Int.not_le.1 down)
    split
    next inside =>
      have bare := bare_inside tidy (by omega) inside
      have some : (digitChars digits).drop ((digitChars digits).length - (-exponent).toNat) ≠ [] :=
        List.ne_nil_of_length_pos (by rw [List.length_drop]; omega)
      exact ⟨_, _, bare, (pointed_of_ne_nil _ some).symm⟩
    next outside =>
      have some := List.append_ne_nil_of_right_ne_nil
        (List.replicate ((-exponent).toNat - (digitChars digits).length) '0')
        (digitChars_ne_nil digits)
      have bare := bare_outside tidy ((-exponent).toNat - (digitChars digits).length)
      exact ⟨['0'], _, bare, (pointed_of_ne_nil ['0'] some).symm⟩

/-- A bare text reads as the decimal that its digits write. -/
theorem readMagnitude?_bare {whole places : List Char} (bare : Bare whole places) :
    readMagnitude? (pointed whole places) =
      some (Nat.ofDigitChars 10 (whole ++ places) 0, -(places.length : Int)) := by
  cases places with
  | nil =>
    rw [pointed_nil, List.append_nil]
    exact readMagnitude?_whole bare.before bare.some
  | cons c places =>
    rw [pointed_of_ne_nil _ (List.cons_ne_nil _ _)]
    exact readMagnitude?_pointed bare.before bare.after
      (List.append_ne_nil_of_left_ne_nil bare.some _)

theorem spellsPlain_positional {d : Decimal} (ne : d.digits = 0 → d.exponent = 0)
    (tidy : d.exponent < 0 → ¬ 10 ∣ d.digits) :
    SpellsPlain ((if d.negative then ['-'] else []) ++ positional d.digits d.exponent) d := by
  obtain ⟨whole, places, bare, text⟩ := exists_bare ne tidy
  have read := (positional_numeral d.digits d.exponent).2
  rw [text, readMagnitude?_bare bare] at read
  obtain ⟨digits_eq, places_eq⟩ := Prod.mk.inj (Option.some.inj read)
  rw [text]
  refine .mk bare ?_
  have split : d.exponent = d.exponent.toNat + min d.exponent 0 := by omega
  have power : (10 : ℚ) ^ d.exponent = 10 ^ d.exponent.toNat * 10 ^ min d.exponent 0 := by
    rw [← zpow_natCast, ← zpow_add₀ (by norm_num), ← split]
  unfold value
  dsimp only
  rw [digits_eq, places_eq, power]
  push_cast
  ring

end Scriptlet.Decimal
