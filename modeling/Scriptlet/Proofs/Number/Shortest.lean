import Scriptlet.Proofs.Number.PlainText

/-
  Shortest decimals.
  A number is written on the coarsest grid of decimals that has a point which reads back as it
  (`coarsest_shortest`): if any point of a grid does, then one of the two next to the number, since
  rounding is monotone. So no decimal with fewer digits reads back: between it and the one that is
  written there would be a power of ten, on a coarser grid (`Coarsest.length_le`). Main statement:
  `Binary.exists_shortest`.
-/

namespace Scriptlet

namespace Decimal

/-- Between a number and one with more digits is a power of ten. -/
theorem exists_pow_between {low high : Nat}
    (fewer : (digitChars low).length < (digitChars high).length) :
    ∃ places, 0 < places ∧ low < 10 ^ places ∧ 10 ^ places ≤ high := by
  have some := List.length_pos_of_ne_nil (digitChars_ne_nil low)
  obtain ⟨places, length⟩ : ∃ places, (digitChars high).length = places + 1 :=
    Nat.exists_eq_add_one.2 (by omega)
  have positive : 0 < places := by omega
  have fits {n : Nat} : (digitChars n).length ≤ places ↔ n < 10 ^ places :=
    Nat.length_toDigits_le_iff (by decide) positive
  refine ⟨places, positive, fits.1 (by omega), Nat.not_lt.1 fun lt => ?_⟩
  have := fits.2 lt
  omega

end Decimal

namespace Format

variable {f : Format} {units digits point : Nat} {exponent : Int}

/-! ## Points of a grid -/

theorem decimalUnits_eq (f : Format) (digits : Nat) (exponent : Int) :
    f.decimalUnits digits exponent =
      (digits * (f.decimalUnits 1 exponent).1, (f.decimalUnits 1 exponent).2) := by
  unfold decimalUnits
  split
  · rw [Nat.shiftLeft_eq, Nat.shiftLeft_eq, Nat.one_mul]
  · rw [Nat.shiftLeft_eq, Nat.shiftLeft_eq, Nat.one_mul, Nat.mul_assoc]

theorem readsAs_iff_nearest : f.readsAs units digits exponent = true ↔
    f.nearest (f.decimalUnits digits exponent).1 (f.decimalUnits digits exponent).2 = units :=
  beq_iff_eq

theorem readsAs_iff : f.readsAs units digits exponent = true ↔
    f.nearest (digits * (f.decimalUnits 1 exponent).1) (f.decimalUnits 1 exponent).2 = units := by
  rw [readsAs_iff_nearest, decimalUnits_eq]

theorem units_one_pos (f : Format) (exponent : Int) : 0 < (f.decimalUnits 1 exponent).1 := by
  unfold decimalUnits
  split
  · rw [Nat.shiftLeft_eq, Nat.one_mul]
    exact Nat.two_pow_pos _
  · rw [Nat.shiftLeft_eq, Nat.one_mul]
    exact Nat.mul_pos (Nat.pow_pos (by decide)) (Nat.two_pow_pos _)

/-- Zero digits read as zero. -/
theorem digits_ne_zero (ne : units ≠ 0) (reads : f.readsAs units digits exponent = true) :
    digits ≠ 0 := by
  rintro rfl
  have pos := Decimal.decimalUnits_pos f 1 exponent
  rw [readsAs_iff, Nat.zero_mul] at reads
  have zero := nearest_of_precise f.precise_zero pos
  rw [Nat.zero_mul, reads] at zero
  exact ne zero

/-- The exponent that is tried first is below that of a power of ten above the number. -/
theorem two_pow_le_units (f : Format) (units : Nat) (beyond : f.topExponent units < exponent) :
    2 ^ (units.log2 + 1) * (f.decimalUnits 1 exponent).2 ≤ (f.decimalUnits 1 exponent).1 := by
  unfold topExponent at beyond
  dsimp only at beyond
  by_cases plus : 0 ≤ exponent
  · have bits : units.log2 + 1 ≤ 3 * exponent.toNat + f.scale := by
      split at beyond <;> omega
    unfold decimalUnits
    rw [if_neg (Int.not_lt.2 plus), Nat.mul_one, Nat.shiftLeft_eq, Nat.one_mul]
    calc 2 ^ (units.log2 + 1) ≤ 2 ^ (3 * exponent.toNat + f.scale) :=
          Nat.pow_le_pow_right (by decide) bits
      _ = 8 ^ exponent.toNat * 2 ^ f.scale := by rw [Nat.pow_add, Nat.pow_mul]
      _ ≤ 10 ^ exponent.toNat * 2 ^ f.scale :=
          Nat.mul_le_mul_right _ (Nat.pow_le_pow_left (by decide) _)
  · have bits : 10 * (-exponent).toNat ≤ 3 * (f.scale - (units.log2 + 3)) ∧
        units.log2 + 3 ≤ f.scale := by
      split at beyond <;> omega
    -- the cube of ten is below the tenth power of two
    have cubes : (10 ^ (-exponent).toNat) ^ 3 ≤ (2 ^ (f.scale - (units.log2 + 3))) ^ 3 :=
      calc (10 ^ (-exponent).toNat) ^ 3 = 1000 ^ (-exponent).toNat := by
            rw [← Nat.pow_mul, Nat.mul_comm, Nat.pow_mul]
        _ ≤ 1024 ^ (-exponent).toNat := Nat.pow_le_pow_left (by decide) _
        _ = 2 ^ (10 * (-exponent).toNat) := by rw [Nat.pow_mul]
        _ ≤ 2 ^ (3 * (f.scale - (units.log2 + 3))) := Nat.pow_le_pow_right (by decide) bits.1
        _ = (2 ^ (f.scale - (units.log2 + 3))) ^ 3 := by rw [← Nat.pow_mul, Nat.mul_comm]
    have power := (Nat.pow_le_pow_iff_left (by decide)).1 cubes
    unfold decimalUnits
    rw [if_pos (Int.not_le.1 plus), Nat.shiftLeft_eq, Nat.one_mul]
    calc 2 ^ (units.log2 + 1) * 10 ^ (-exponent).toNat ≤
          2 ^ (units.log2 + 1) * 2 ^ (f.scale - (units.log2 + 3)) := Nat.mul_le_mul_left _ power
      _ = 2 ^ (units.log2 + 1 + (f.scale - (units.log2 + 3))) := (Nat.pow_add _ _ _).symm
      _ ≤ 2 ^ f.scale := Nat.pow_le_pow_right (by decide) (by omega)

/-- No decimal with a greater exponent reads back. -/
theorem le_topExponent (some : 0 < f.precision) (ne : units ≠ 0)
    (reads : f.readsAs units digits exponent = true) : exponent ≤ f.topExponent units := by
  refine Int.not_lt.1 fun beyond => ?_
  have positive := Nat.pos_of_ne_zero (digits_ne_zero ne reads)
  have reached : 2 ^ (units.log2 + 1) * (f.decimalUnits 1 exponent).2 ≤
      digits * (f.decimalUnits 1 exponent).1 :=
    (two_pow_le_units f units beyond).trans (Nat.le_mul_of_pos_left _ positive)
  have le := le_nearest some (Decimal.decimalUnits_pos f 1 exponent)
    (precise_two_pow some _) reached
  rw [readsAs_iff.1 reads] at le
  exact Nat.not_lt_of_le le Nat.lt_log2_self

section

variable (some : 0 < f.precision) (precise : f.Precise units)
include some precise

/-- What is between a point that reads back and the number reads back too. -/
theorem readsAs_of_le (reads : f.readsAs units digits exponent = true) (le : digits ≤ point)
    (below : point * (f.decimalUnits 1 exponent).1 ≤ units * (f.decimalUnits 1 exponent).2) :
    f.readsAs units point exponent = true := by
  have pos := Decimal.decimalUnits_pos f 1 exponent
  rw [readsAs_iff] at reads ⊢
  refine Nat.le_antisymm (nearest_le_of_le some pos precise below) (reads ▸ ?_)
  exact nearest_mono some pos pos (Nat.mul_le_mul_right _ (Nat.mul_le_mul_right _ le))

theorem readsAs_of_ge (reads : f.readsAs units digits exponent = true) (ge : point ≤ digits)
    (above : units * (f.decimalUnits 1 exponent).2 ≤ point * (f.decimalUnits 1 exponent).1) :
    f.readsAs units point exponent = true := by
  have pos := Decimal.decimalUnits_pos f 1 exponent
  rw [readsAs_iff] at reads ⊢
  refine Nat.le_antisymm (reads ▸ ?_) (le_nearest some pos precise above)
  exact nearest_mono some pos pos (Nat.mul_le_mul_right _ (Nat.mul_le_mul_right _ ge))

/-- If a point of the grid reads back, then there is one to write. -/
theorem exists_gridPoint? (reads : f.readsAs units digits exponent = true) :
    ∃ point, f.gridPoint? units exponent = Option.some point := by
  have split := Nat.div_add_mod' (units * (f.decimalUnits 1 exponent).2)
    (f.decimalUnits 1 exponent).1
  have rest := Nat.mod_lt (units * (f.decimalUnits 1 exponent).2) (units_one_pos f exponent)
  unfold gridPoint?
  dsimp only
  rcases Nat.lt_or_ge (units * (f.decimalUnits 1 exponent).2 / (f.decimalUnits 1 exponent).1)
    digits with above | below
  · have next := readsAs_of_ge some precise reads above (by rw [Nat.succ_mul]; omega)
    rw [next]
    split
    · split <;> exact ⟨_, rfl⟩
    · exact ⟨_, rfl⟩
  · have last := readsAs_of_le some precise reads below (by omega)
    rw [if_pos last]
    split
    · exact ⟨_, rfl⟩
    · exact ⟨_, rfl⟩

/-! ## The coarsest grid -/

/-- The decimals that are tried cover all grids down to that of the exact digits. -/
theorem le_shortestFrom (count : Nat) (exponent : Int) (room : exponent ≤ count - f.scale)
    (tried : ∀ {digits other}, f.readsAs units digits other = true → other ≤ exponent)
    {other : Int} (reads : f.readsAs units digits other = true) :
    other ≤ (f.shortestFrom units count exponent).2 := by
  induction count generalizing exponent with
  | zero =>
    have := tried reads
    show other ≤ -(f.scale : Int)
    omega
  | succ count ih =>
    unfold shortestFrom
    cases found : f.gridPoint? units exponent with
    | some point => exact tried reads
    | none =>
      refine ih (exponent - 1) (by omega) fun {digits' other'} reads' => ?_
      have le := tried reads'
      have apart : other' ≠ exponent := by
        rintro rfl
        obtain ⟨point, found'⟩ := exists_gridPoint? some precise reads'
        rw [found] at found'
        cases found'
      omega

/-- The number is written on the coarsest grid that has a point which reads back. -/
theorem le_shortest (ne : units ≠ 0) (reads : f.readsAs units digits exponent = true) :
    exponent ≤ (f.shortest units).2 :=
  le_shortestFrom some precise _ _ (by omega) (le_topExponent some ne) reads

end

/-! ## Between two decimals -/

theorem decimal_eq (f : Format) (digits : Nat) (exponent : Int) :
    (digits * 10 ^ exponent : ℚ) = (f.decimalUnits digits exponent).1 /
      (f.decimalUnits digits exponent).2 / 2 ^ f.scale := by
  have value := Decimal.value_eq f ⟨false, digits, exponent⟩
  simpa [Decimal.value, signFactor] using value

/-- A greater decimal is not rounded to a smaller number. -/
theorem nearest_le_of_decimal_le (some : 0 < f.precision) {other : Int}
    (le : (digits * 10 ^ exponent : ℚ) ≤ point * 10 ^ other) :
    f.nearest (f.decimalUnits digits exponent).1 (f.decimalUnits digits exponent).2 ≤
      f.nearest (f.decimalUnits point other).1 (f.decimalUnits point other).2 := by
  have pos := Decimal.decimalUnits_pos f digits exponent
  have pos' := Decimal.decimalUnits_pos f point other
  have unit : (0 : ℚ) < 2 ^ f.scale := by positivity
  rw [decimal_eq f, decimal_eq f, div_le_div_iff_of_pos_right unit,
    div_le_div_iff₀ (Nat.cast_pos.2 pos) (Nat.cast_pos.2 pos')] at le
  exact nearest_mono some pos pos' (by exact_mod_cast le)

/-- What is between two decimals that read back reads back. -/
theorem readsAs_between (some : 0 < f.precision) {low high : Nat} {least greatest : Int}
    (reads : f.readsAs units low least = true) (reads' : f.readsAs units high greatest = true)
    (le : (low * 10 ^ least : ℚ) ≤ point * 10 ^ exponent)
    (le' : (point * 10 ^ exponent : ℚ) ≤ high * 10 ^ greatest) :
    f.readsAs units point exponent = true := by
  have lower := nearest_le_of_decimal_le (f := f) some le
  have upper := nearest_le_of_decimal_le (f := f) some le'
  rw [readsAs_iff_nearest.1 reads] at lower
  rw [readsAs_iff_nearest.1 reads'] at upper
  exact readsAs_iff_nearest.2 (Nat.le_antisymm upper lower)

/-- The decimal reads back, and none with a greater exponent does. -/
structure Coarsest (f : Format) (units digits : Nat) (exponent : Int) : Prop where
  reads : f.readsAs units digits exponent = true
  greatest : ∀ {point : Nat} {other : Int}, f.readsAs units point other = true → other ≤ exponent

theorem coarsest_shortest (some : 0 < f.precision) (fits : f.Fits units) (ne : units ≠ 0) :
    f.Coarsest units (f.shortest units).1 (f.shortest units).2 where
  reads := (readsAs_shortest fits).1
  greatest := le_shortest some (fits_iff.1 fits).2 ne

section

variable (coarsest : f.Coarsest units digits exponent) (some : 0 < f.precision)
include coarsest some

theorem Coarsest.not_dvd : ¬ 10 ∣ digits := by
  rintro ⟨tens, rfl⟩
  have same : (tens * 10 ^ (exponent + 1) : ℚ) = (10 * tens : Nat) * 10 ^ exponent := by
    push_cast
    rw [zpow_add_one₀ (by norm_num)]
    ring
  have coarser := readsAs_between some coarsest.reads coarsest.reads same.ge same.le
  have := coarsest.greatest coarser
  omega

/-- No decimal with fewer digits reads back, or the power of ten between the two would. -/
theorem Coarsest.length_le {other : Int} (reads : f.readsAs units point other = true) :
    (Decimal.digitChars digits).length ≤ (Decimal.digitChars point).length := by
  refine Nat.not_lt.1 fun fewer => ?_
  obtain ⟨places, positive, below, above⟩ := Decimal.exists_pow_between fewer
  have power : ((1 : Nat) * 10 ^ (exponent + places) : ℚ) =
      (10 ^ places : Nat) * 10 ^ exponent := by
    push_cast
    rw [zpow_add₀ (by norm_num), zpow_natCast]
    ring
  have middle : f.readsAs units 1 (exponent + places) = true := by
    refine readsAs_between some reads coarsest.reads ?_ ?_
    · rw [power]
      have le := coarsest.greatest reads
      gcongr
      norm_num
    · rw [power]
      gcongr
  have := coarsest.greatest middle
  omega

end

end Format

namespace Decimal

/-- A decimal is rounded to the number, and none with fewer digits before its power of ten is. -/
structure ShortestOf {f : Format} (d : Decimal) (x : Binary f) : Prop where
  reads : d.toBinary f = x
  least : ∀ e : Decimal, e.toBinary f = x →
    (digitChars d.digits).length ≤ (digitChars e.digits).length

end Decimal

namespace Binary

variable {f : Format} {units : Nat}

theorem readsAs_of_toBinary (some : 0 < f.precision) {d : Decimal} {negative : Bool}
    {fits : f.Fits units} (made : d.toBinary f = finite negative units fits) :
    f.readsAs units d.digits d.exponent = true := by
  rw [Decimal.toBinary_eq_ofQuotient some] at made
  unfold ofQuotient at made
  dsimp only at made
  split at made
  · cases made
    exact Format.readsAs_iff_nearest.2 rfl
  · cases made

theorem toBinary_of_readsAs (some : 0 < f.precision) {d : Decimal} (fits : f.Fits units)
    (reads : f.readsAs units d.digits d.exponent = true) :
    d.toBinary f = finite d.negative units fits := by
  have rounded := Format.readsAs_iff_nearest.1 reads
  rw [Decimal.toBinary_eq_ofQuotient some]
  unfold ofQuotient
  simp only [rounded]
  exact dif_pos fits

theorem spellsPlain_textChars {d : Decimal} (fits : f.Fits units)
    (text : magnitudeText f units = Decimal.positional d.digits d.exponent)
    (ne : d.digits = 0 → d.exponent = 0) (tidy : d.exponent < 0 → ¬ 10 ∣ d.digits) :
    d.SpellsPlain (finite d.negative units fits).textChars := by
  have signed : (finite d.negative units fits).textChars =
      (if d.negative then ['-'] else []) ++ Decimal.positional d.digits d.exponent := by
    rw [← text]
    unfold textChars
    cases d.negative <;> rfl
  rw [signed]
  exact Decimal.spellsPlain_positional ne tidy

/-- A finite number is written as a decimal that is rounded to it, with the fewest digits and
without a power of ten. -/
theorem exists_shortest (some : 0 < f.precision) (negative : Bool) (fits : f.Fits units) :
    ∃ d : Decimal, d.SpellsPlain (finite negative units fits).textChars ∧
      d.ShortestOf (finite negative units fits) := by
  by_cases none : units = 0
  · subst none
    have text : magnitudeText f 0 = Decimal.positional 0 0 := rfl
    have plain : Decimal.SpellsPlain _ ⟨negative, 0, 0⟩ :=
      spellsPlain_textChars fits text (fun _ => rfl) (absurd · (Int.lt_irrefl 0))
    have one : (Decimal.digitChars 0).length = 1 := rfl
    refine ⟨_, plain, rfl, fun e _ => ?_⟩
    exact one ▸ List.length_pos_of_ne_nil (Decimal.digitChars_ne_nil e.digits)
  · let d : Decimal := ⟨negative, (f.shortest units).1, (f.shortest units).2⟩
    have text : magnitudeText f units = Decimal.positional d.digits d.exponent := if_neg none
    have coarsest := Format.coarsest_shortest some fits none
    have nonzero := Format.digits_ne_zero none coarsest.reads
    refine ⟨d, spellsPlain_textChars fits text (absurd · nonzero) fun _ => coarsest.not_dvd some,
      toBinary_of_readsAs some fits coarsest.reads, fun e made => ?_⟩
    exact coarsest.length_le some (readsAs_of_toBinary some made)

end Binary

end Scriptlet
