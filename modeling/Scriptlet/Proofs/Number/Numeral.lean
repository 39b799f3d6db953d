import Mathlib.Algebra.Group.Nat.Defs
import Scriptlet.Binary.Decimal

/-
  Numerals: digits with at most one point.
  A numeral reads as the number nearest to the decimal it writes, and that is neither negative nor
  not a number (`readChars?_numeral`). The text of a finite magnitude is a numeral and reads back
  as the same magnitude, in every format (`readUnsigned?_magnitudeText`).
-/

namespace Scriptlet

namespace Decimal

/-- Digits with at most one point among them, at least one digit among them. -/
inductive IsNumeral : List Char → Prop
  | whole {digits : List Char} (each : ∀ c ∈ digits, c.isDigit = true) (some : digits ≠ []) :
    IsNumeral digits
  | pointed {whole places : List Char} (before : ∀ c ∈ whole, c.isDigit = true)
    (after : ∀ c ∈ places, c.isDigit = true) (some : whole ++ places ≠ []) :
    IsNumeral (whole ++ '.' :: places)

theorem takeWhile_digits {digits rest : List Char} (each : ∀ c ∈ digits, c.isDigit = true)
    (stops : ∀ c ∈ rest.head?, c.isDigit = false) :
    (digits ++ rest).takeWhile Char.isDigit = digits ∧
      (digits ++ rest).dropWhile Char.isDigit = rest := by
  rw [List.takeWhile_append_of_pos each, List.dropWhile_append_of_pos each]
  cases rest with
  | nil => simp
  | cons c rest =>
    have stop : c.isDigit = false := stops c rfl
    simp [stop]

/-! ## Reading a numeral -/

theorem foldDigits_append (start : Nat) (xs ys : List Char) :
    foldDigits start (xs ++ ys) = foldDigits (foldDigits start xs) ys :=
  List.foldl_append

/-- Digits are read up to the power of ten that follows them. -/
theorem readMagnitude?_whole_append {digits rest : List Char} {exponent : Int}
    (each : ∀ c ∈ digits, c.isDigit = true) (ne : digits ≠ [])
    (stops : ∀ c ∈ rest.head?, c.isDigit = false ∧ c ≠ '.')
    (read : readExponent? rest = some exponent) :
    readMagnitude? (digits ++ rest) = some (foldDigits 0 digits, exponent) := by
  obtain ⟨taken, dropped⟩ := takeWhile_digits each fun c mem => (stops c mem).1
  have filled : ¬ (digits.isEmpty && List.isEmpty ([] : List Char)) = true := by
    simpa using ne
  unfold readMagnitude?
  rw [taken, dropped]
  dsimp only
  split
  next => exact absurd rfl (stops '.' rfl).2
  next =>
    dsimp only
    rw [if_neg filled, read]
    simp [foldDigits]

theorem readMagnitude?_pointed_append {whole places rest : List Char} {exponent : Int}
    (before : ∀ c ∈ whole, c.isDigit = true) (after : ∀ c ∈ places, c.isDigit = true)
    (ne : whole ++ places ≠ []) (stops : ∀ c ∈ rest.head?, c.isDigit = false)
    (read : readExponent? rest = some exponent) :
    readMagnitude? (whole ++ '.' :: (places ++ rest)) =
      some (foldDigits 0 (whole ++ places), exponent - places.length) := by
  have point : ∀ c ∈ ('.' :: (places ++ rest)).head?, c.isDigit = false := by
    intro c mem
    cases mem
    rfl
  obtain ⟨taken, dropped⟩ := takeWhile_digits before point
  obtain ⟨taken', dropped'⟩ := takeWhile_digits after stops
  have filled : ¬ (whole.isEmpty && places.isEmpty) = true := by
    simpa using ne
  unfold readMagnitude?
  rw [taken, dropped]
  simp only [taken', dropped', if_neg filled, foldDigits_append, read]
  rfl

theorem readMagnitude?_whole {digits : List Char} (each : ∀ c ∈ digits, c.isDigit = true)
    (ne : digits ≠ []) : readMagnitude? digits = some (foldDigits 0 digits, 0) := by
  have stops : ∀ c ∈ ([] : List Char).head?, c.isDigit = false ∧ c ≠ '.' := nofun
  simpa using readMagnitude?_whole_append each ne stops rfl

theorem readMagnitude?_pointed {whole places : List Char} (before : ∀ c ∈ whole, c.isDigit = true)
    (after : ∀ c ∈ places, c.isDigit = true) (ne : whole ++ places ≠ []) :
    readMagnitude? (whole ++ '.' :: places) =
      some (foldDigits 0 (whole ++ places), -(places.length : Int)) := by
  have stops : ∀ c ∈ ([] : List Char).head?, c.isDigit = false := nofun
  simpa using readMagnitude?_pointed_append before after ne stops rfl

/-- A numeral begins with a digit or with its point. -/
theorem IsNumeral.head {cs : List Char} (h : IsNumeral cs) :
    ∃ c rest, cs = c :: rest ∧ (c.isDigit = true ∨ c = '.') := by
  cases h with
  | whole each ne =>
    obtain ⟨c, rest, rfl⟩ := List.exists_cons_of_ne_nil ne
    exact ⟨c, rest, rfl, .inl (each c List.mem_cons_self)⟩
  | @pointed whole places before after ne =>
    cases whole with
    | nil => exact ⟨'.', places, rfl, .inr rfl⟩
    | cons c rest =>
      exact ⟨c, rest ++ '.' :: places, rfl, .inl (before c List.mem_cons_self)⟩

theorem IsNumeral.digit_or_point {cs : List Char} (h : IsNumeral cs) :
    ∀ c ∈ cs, c.isDigit = true ∨ c = '.' := by
  intro c mem
  cases h with
  | whole each some => exact .inl (each c mem)
  | pointed before after some =>
    rcases List.mem_append.1 mem with mem | mem
    · exact .inl (before c mem)
    · rcases List.mem_cons.1 mem with rfl | mem
      · exact .inr rfl
      · exact .inl (after c mem)

theorem ne_of_isDigit {c d : Char} (h : c.isDigit = true) (other : d.isDigit = false) : c ≠ d := by
  rintro rfl
  rw [h] at other
  cases other

theorem toLower_of_isDigit {c : Char} (h : c.isDigit = true) : c.toLower = c := by
  have bounds : '0'.val ≤ c.val ∧ c.val ≤ '9'.val := by
    simpa [Char.isDigit] using h
  have notUpper : ¬ (65 ≤ c.val ∧ c.val ≤ 90) := by
    rintro ⟨ge, -⟩
    have := UInt32.le_trans ge bounds.2
    revert this
    decide
  unfold Char.toLower
  simp only [ge_iff_le]
  split
  next upper => exact absurd upper notUpper
  next => rfl

theorem IsNumeral.toLower_head {c : Char} (h : c.isDigit = true ∨ c = '.') :
    c.toLower ≠ 'i' ∧ c.toLower ≠ 'n' := by
  rcases h with digit | rfl
  · rw [toLower_of_isDigit digit]
    exact ⟨ne_of_isDigit digit (by decide), ne_of_isDigit digit (by decide)⟩
  · decide

end Decimal

namespace Binary

open Decimal (IsNumeral)

variable {f : Format}

/-- What begins with a digit or with a point is none of the words for numbers. -/
theorem readUnsigned?_of_head {c : Char} (first : c.isDigit = true ∨ c = '.') (rest : List Char)
    (negative : Bool) :
    (readUnsigned? negative (c :: rest) : Option (Binary f)) =
      (Decimal.readMagnitude? (c :: rest)).map fun (digits, exponent) =>
        Decimal.toBinary f ⟨negative, digits, exponent⟩ := by
  obtain ⟨notI, notN⟩ := IsNumeral.toLower_head first
  have other : ∀ word : List Char, c.toLower ≠ word.headD 'i' →
      String.ofList ((c :: rest).map Char.toLower) ≠ String.ofList word := by
    intro word ne same
    have chars := String.ofList_injective same
    rw [← chars] at ne
    exact ne rfl
  unfold readUnsigned?
  dsimp only
  rw [if_neg, if_neg]
  · cases Decimal.readMagnitude? (c :: rest) <;> rfl
  · exact other ['n', 'a', 'n'] notN
  · rintro (same | same)
    · exact other ['i', 'n', 'f'] notI same
    · exact other ['i', 'n', 'f', 'i', 'n', 'i', 't', 'y'] notI same

theorem readUnsigned?_numeral {cs : List Char} (h : IsNumeral cs) (negative : Bool) :
    (readUnsigned? negative cs : Option (Binary f)) =
      (Decimal.readMagnitude? cs).map fun (digits, exponent) =>
        Decimal.toBinary f ⟨negative, digits, exponent⟩ := by
  obtain ⟨c, rest, rfl, first⟩ := h.head
  exact readUnsigned?_of_head first rest negative

theorem readChars?_eq_readUnsigned? {cs : List Char} (h : IsNumeral cs) :
    (readChars? cs : Option (Binary f)) = readUnsigned? false cs := by
  obtain ⟨c, rest, rfl, first⟩ := h.head
  unfold readChars?
  split
  next eq =>
    cases eq
    exact absurd first (by decide)
  next eq =>
    cases eq
    exact absurd first (by decide)
  next => rfl

/-- A numeral reads as the number nearest to a decimal without a sign. -/
theorem readChars?_numeral {cs : List Char} (h : IsNumeral cs) :
    ∃ digits exponent,
      (readChars? cs : Option (Binary f)) =
        some (Decimal.toBinary f ⟨false, digits, exponent⟩) := by
  rw [readChars?_eq_readUnsigned? h, readUnsigned?_numeral h]
  cases h with
  | whole each ne =>
    rw [Decimal.readMagnitude?_whole each ne]
    exact ⟨_, _, rfl⟩
  | pointed before after ne =>
    rw [Decimal.readMagnitude?_pointed before after ne]
    exact ⟨_, _, rfl⟩

/-- A number that a literal can stand for: neither negative nor not a number. -/
def Unsigned (x : Binary f) : Prop :=
  x.isNan = false ∧ x.isNegative = false

theorem unsigned_toBinary (digits : Nat) (exponent : Int) :
    (Decimal.toBinary f ⟨false, digits, exponent⟩).Unsigned := by
  unfold Decimal.toBinary ofQuotient
  dsimp only
  split
  · exact ⟨rfl, rfl⟩
  split
  · exact ⟨rfl, rfl⟩
  split
  · exact ⟨rfl, rfl⟩
  split
  · exact ⟨rfl, rfl⟩
  · exact ⟨rfl, rfl⟩

/-- A numeral reads as a number, without a sign. -/
theorem exists_unsigned_of_numeral {cs : List Char} (h : IsNumeral cs) :
    ∃ x : Binary f, readChars? cs = some x ∧ x.Unsigned := by
  obtain ⟨digits, exponent, made⟩ := readChars?_numeral (f := f) h
  exact ⟨_, made, unsigned_toBinary digits exponent⟩

end Binary

/-! ## Writing a magnitude -/

namespace Decimal

theorem isDigit_of_mem_digitChars {n : Nat} : ∀ c ∈ digitChars n, c.isDigit = true := by
  intro c mem
  exact Nat.isDigit_of_mem_toDigits (by decide) (by decide) mem

theorem foldDigits_digitChars (n : Nat) : foldDigits 0 (digitChars n) = n :=
  Nat.ofDigitChars_ten_toDigits

theorem foldDigits_zeros (start count : Nat) :
    foldDigits start (List.replicate count '0') = start * 10 ^ count := by
  rw [Nat.mul_comm]
  exact Nat.ofDigitChars_replicate_zero

theorem isDigit_of_mem_zeros {count : Nat} : ∀ c ∈ List.replicate count '0', c.isDigit = true := by
  intro c mem
  rw [List.eq_of_mem_replicate mem]
  rfl

/-- Digits written without an exponent are a numeral, and it reads as the same decimal. -/
theorem positional_numeral (digits : Nat) (exponent : Int) :
    IsNumeral (positional digits exponent) ∧
      readMagnitude? (positional digits exponent) =
        some (digits * 10 ^ exponent.toNat, min exponent 0) := by
  have ne : digitChars digits ≠ [] := Nat.toDigits_ne_nil
  unfold positional
  dsimp only
  by_cases up : 0 ≤ exponent
  · have each : ∀ c ∈ digitChars digits ++ List.replicate exponent.toNat '0',
        c.isDigit = true := by
      intro c mem
      rcases List.mem_append.1 mem with mem | mem
      · exact isDigit_of_mem_digitChars c mem
      · exact isDigit_of_mem_zeros c mem
    have some := List.append_ne_nil_of_left_ne_nil ne (List.replicate exponent.toNat '0')
    rw [if_pos up, readMagnitude?_whole each some, foldDigits_append, foldDigits_digitChars,
      foldDigits_zeros, Int.min_eq_right up]
    exact ⟨.whole each some, rfl⟩
  · have flat : exponent.toNat = 0 := by omega
    rw [if_neg up, flat, Nat.pow_zero, Nat.mul_one, Int.min_eq_left (by omega)]
    split
    next inside =>
      have joined := List.take_append_drop ((digitChars digits).length - (-exponent).toNat)
        (digitChars digits)
      have before : ∀ c ∈ (digitChars digits).take ((digitChars digits).length - (-exponent).toNat),
          c.isDigit = true :=
        fun c mem => isDigit_of_mem_digitChars c (List.mem_of_mem_take mem)
      have after : ∀ c ∈ (digitChars digits).drop ((digitChars digits).length - (-exponent).toNat),
          c.isDigit = true :=
        fun c mem => isDigit_of_mem_digitChars c (List.mem_of_mem_drop mem)
      have some := joined.symm ▸ ne
      rw [readMagnitude?_pointed before after some, joined, foldDigits_digitChars,
        List.length_drop]
      refine ⟨.pointed before after some, ?_⟩
      congr 2
      omega
    next outside =>
      have after : ∀ c ∈ List.replicate ((-exponent).toNat - (digitChars digits).length) '0' ++
          digitChars digits, c.isDigit = true := by
        intro c mem
        rcases List.mem_append.1 mem with mem | mem
        · exact isDigit_of_mem_zeros c mem
        · exact isDigit_of_mem_digitChars c mem
      have before : ∀ c ∈ ['0'], c.isDigit = true := List.forall_mem_singleton.2 rfl
      have read := readMagnitude?_pointed before after (by simp)
      rw [foldDigits_append, foldDigits_append] at read
      refine ⟨.pointed before after (by simp), ?_⟩
      refine read.trans ?_
      have zero : foldDigits (foldDigits 0 ['0'])
          (List.replicate ((-exponent).toNat - (digitChars digits).length) '0') = 0 := by
        rw [foldDigits_zeros]
        exact Nat.zero_mul _
      rw [zero, foldDigits_digitChars, List.length_append, List.length_replicate]
      congr 2
      omega

end Decimal

namespace Format

variable {f : Format} {units : Nat}

theorem halfEven_mul (whole : Nat) {den : Nat} (pos : 0 < den) :
    halfEven (whole * den) den = whole := by
  unfold halfEven
  rw [Nat.mul_mod_left, Nat.mul_div_cancel whole pos]
  exact if_pos (.inl pos)

/-- A magnitude that fits is the nearest one to itself. -/
theorem nearest_exact (fits : f.Fits units) {den : Nat} (pos : 0 < den) :
    f.nearest (units * den) den = units := by
  unfold nearest
  rw [Nat.mul_div_cancel units pos]
  have grid := fits.2
  rw [Nat.one_shiftLeft] at grid
  have split := Nat.div_add_mod' units (2 ^ f.slack units)
  rw [grid, Nat.add_zero] at split
  have scaled : units * den = units / 2 ^ f.slack units * (den * 2 ^ f.slack units) := by
    rw [Nat.mul_comm den, ← Nat.mul_assoc, split]
  rw [Nat.shiftLeft_eq, Nat.shiftLeft_eq, scaled,
    halfEven_mul _ (Nat.mul_pos pos (Nat.two_pow_pos _)), split]

/-- The exact digits of a magnitude that fits read back. -/
theorem readsAs_exact (fits : f.Fits units) :
    f.readsAs units (units * Nat.pow 5 f.scale) (-f.scale) = true := by
  have power : units * Nat.pow 5 f.scale * 2 ^ f.scale = units * 10 ^ f.scale := by
    rw [Nat.mul_assoc]
    show units * (5 ^ f.scale * 2 ^ f.scale) = _
    rw [← Nat.mul_pow]
  unfold readsAs decimalUnits
  by_cases zero : f.scale = 0
  · have exact := nearest_exact fits Nat.one_pos
    simpa [zero] using exact
  · have down : (-f.scale : Int) < 0 := by omega
    rw [if_pos down]
    dsimp only
    rw [Nat.shiftLeft_eq, power, Int.neg_neg, Int.toNat_natCast]
    exact beq_iff_eq.2 (nearest_exact fits (Nat.pow_pos (by decide)))

theorem readsAs_of_gridPoint? {exponent : Int} {digits : Nat}
    (h : f.gridPoint? units exponent = some digits) : f.readsAs units digits exponent = true := by
  unfold gridPoint? at h
  dsimp only at h
  split at h
  next low =>
    split at h
    next high =>
      cases h
      exact high.1
    next =>
      cases h
      exact low
  next =>
    split at h
    next high =>
      cases h
      exact high
    next => cases h

/-- What is written for a magnitude reads back, and has no digits below its unit. -/
theorem readsAs_shortestFrom (fits : f.Fits units) (count : Nat) (exponent : Int)
    (room : count ≤ (exponent + f.scale).toNat) :
    f.readsAs units (f.shortestFrom units count exponent).1
        (f.shortestFrom units count exponent).2 = true ∧
      -(f.scale : Int) ≤ (f.shortestFrom units count exponent).2 := by
  induction count generalizing exponent with
  | zero => exact ⟨readsAs_exact fits, Int.le_refl _⟩
  | succ count ih =>
    unfold shortestFrom
    cases found : f.gridPoint? units exponent with
    | none => exact ih (exponent - 1) (by omega)
    | some digits => exact ⟨readsAs_of_gridPoint? found, by dsimp only; omega⟩

theorem readsAs_shortest (fits : f.Fits units) :
    f.readsAs units (f.shortest units).1 (f.shortest units).2 = true ∧
      -(f.scale : Int) ≤ (f.shortest units).2 :=
  readsAs_shortestFrom fits _ _ (Nat.le_refl _)

end Format

namespace Binary

open Decimal (IsNumeral)

variable {f : Format} {units : Nat}

/-- Digits that read back as a magnitude, written without an exponent, read as that magnitude. -/
theorem readUnsigned?_positional {digits : Nat} {exponent : Int} (fits : f.Fits units)
    (ne : units ≠ 0) (reads : f.readsAs units digits exponent = true)
    (low : -(f.scale : Int) ≤ exponent) (negative : Bool) :
    readUnsigned? negative (Decimal.positional digits exponent) =
      some (.finite negative units fits) := by
  obtain ⟨numeral, decimal⟩ := Decimal.positional_numeral digits exponent
  rw [readUnsigned?_numeral numeral, decimal, Option.map_some]
  congr 1
  have nearest : f.nearest (f.decimalUnits digits exponent).1 (f.decimalUnits digits exponent).2 =
      units := beq_iff_eq.1 reads
  have some : digits ≠ 0 := by
    rintro rfl
    apply ne
    rw [← nearest]
    unfold Format.nearest Format.decimalUnits
    split <;> simp [Format.halfEven]
  have positive : digits * 10 ^ exponent.toNat ≠ 0 := Nat.mul_ne_zero some (by simp)
  have same : f.decimalUnits (digits * 10 ^ exponent.toNat) (min exponent 0) =
      f.decimalUnits digits exponent := by
    unfold Format.decimalUnits
    by_cases up : 0 ≤ exponent
    · simp [Int.min_eq_right up, Int.not_lt.2 up]
    · have flat : exponent.toNat = 0 := by omega
      simp [Int.min_eq_left (Int.le_of_lt (Int.not_le.1 up)), flat]
  unfold Decimal.toBinary
  dsimp only
  rw [if_neg positive, if_neg (by omega), if_neg (by omega), same]
  unfold ofQuotient
  simp only [nearest]
  exact dif_pos fits

theorem isNumeral_magnitudeText (f : Format) (units : Nat) : IsNumeral (magnitudeText f units) := by
  unfold magnitudeText
  split
  · exact .whole (List.forall_mem_singleton.2 rfl) (List.cons_ne_nil _ _)
  · exact (Decimal.positional_numeral _ _).1

/-- The text of a magnitude reads back as the magnitude. -/
theorem readUnsigned?_magnitudeText (fits : f.Fits units) (negative : Bool) :
    readUnsigned? negative (magnitudeText f units) = some (.finite negative units fits) := by
  unfold magnitudeText
  split
  next zero =>
    subst zero
    rfl
  next ne =>
    obtain ⟨reads, low⟩ := Format.readsAs_shortest fits
    exact readUnsigned?_positional fits ne reads low negative

end Binary

end Scriptlet
