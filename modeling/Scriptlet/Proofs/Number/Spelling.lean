import Scriptlet.Proofs.Number.Numeral

/-
  Which texts are numbers.
  A number is written as a sign, digits with at most one point and a power of ten, or as one of the
  words, each with the number it stands for. These are the texts that are read, and the decimal is
  rounded as it stands (`Binary.readChars?_iff`).
-/

namespace Scriptlet

namespace Decimal

/-- A sign or none, and whether it is a minus. -/
inductive SpellsSign : List Char → Bool → Prop
  | none : SpellsSign [] false
  | plus : SpellsSign ['+'] false
  | minus : SpellsSign ['-'] true

/-- Digits with at most one point, the number they write without it, and how many come after it. -/
inductive SpellsMantissa : List Char → Nat → Nat → Prop
  | whole {digits : List Char} (each : ∀ c ∈ digits, c.isDigit = true) (some : digits ≠ []) :
    SpellsMantissa digits (Nat.ofDigitChars 10 digits 0) 0
  | pointed {whole places : List Char} (before : ∀ c ∈ whole, c.isDigit = true)
    (after : ∀ c ∈ places, c.isDigit = true) (some : whole ++ places ≠ []) :
    SpellsMantissa (whole ++ '.' :: places) (Nat.ofDigitChars 10 (whole ++ places) 0) places.length

/-- A power of ten: nothing, or an `e` and the exponent. -/
inductive SpellsPower : List Char → Int → Prop
  | none : SpellsPower [] 0
  | some {letter : Char} {sign digits : List Char} {negative : Bool}
    (e : letter = 'e' ∨ letter = 'E') (signed : SpellsSign sign negative)
    (each : ∀ c ∈ digits, c.isDigit = true) (some : digits ≠ []) :
    SpellsPower (letter :: (sign ++ digits))
      (if negative then -(Nat.ofDigitChars 10 digits 0 : Int) else Nat.ofDigitChars 10 digits 0)

/-- The text writes the decimal. -/
inductive Spells : List Char → Decimal → Prop
  | mk {sign mantissa power : List Char} {negative : Bool} {digits places : Nat} {exponent : Int}
    (signed : SpellsSign sign negative) (written : SpellsMantissa mantissa digits places)
    (scaled : SpellsPower power exponent) :
    Spells (sign ++ (mantissa ++ power)) ⟨negative, digits, exponent - places⟩

/-! ## Signs -/

/-- Whether a text begins with a minus, and what follows its sign. -/
def splitSign : List Char → Bool × List Char
  | '-' :: cs => (true, cs)
  | '+' :: cs => (false, cs)
  | cs => (false, cs)

theorem splitSign_sound (cs : List Char) :
    ∃ sign, SpellsSign sign (splitSign cs).1 ∧ cs = sign ++ (splitSign cs).2 := by
  unfold splitSign
  split
  · exact ⟨_, .minus, rfl⟩
  · exact ⟨_, .plus, rfl⟩
  · exact ⟨_, .none, rfl⟩

theorem splitSign_complete {sign rest : List Char} {negative : Bool}
    (signed : SpellsSign sign negative) (clear : ∀ c ∈ rest.head?, c ≠ '-' ∧ c ≠ '+') :
    splitSign (sign ++ rest) = (negative, rest) := by
  cases signed with
  | minus => rfl
  | plus => rfl
  | none =>
    show splitSign rest = (false, rest)
    unfold splitSign
    split
    · exact absurd rfl (clear _ rfl).1
    · exact absurd rfl (clear _ rfl).2
    · rfl

/-! ## Powers -/

theorem readExponent?_cons {letter : Char} (e : letter = 'e' ∨ letter = 'E') (cs : List Char) :
    readExponent? (letter :: cs) =
      if (splitSign cs).2.isEmpty || !(splitSign cs).2.all Char.isDigit then none
      else some (if (splitSign cs).1 then -(foldDigits 0 (splitSign cs).2 : Int)
        else foldDigits 0 (splitSign cs).2) :=
  if_pos e

theorem readExponent?_sound {cs : List Char} {exponent : Int}
    (read : readExponent? cs = some exponent) : SpellsPower cs exponent := by
  cases cs with
  | nil =>
    cases read
    exact .none
  | cons letter cs =>
    by_cases e : letter = 'e' ∨ letter = 'E'
    · obtain ⟨sign, signed, split⟩ := splitSign_sound cs
      rw [readExponent?_cons e] at read
      generalize (splitSign cs).1 = negative, (splitSign cs).2 = digits at *
      by_cases wrong : (digits.isEmpty || !digits.all Char.isDigit) = true
      · rw [if_pos wrong] at read
        cases read
      · rw [if_neg wrong] at read
        cases read
        simp only [Bool.or_eq_true, not_or, Bool.not_eq_true', Bool.not_eq_false,
          List.isEmpty_iff, List.all_eq_true] at wrong
        rw [split]
        exact .some e signed wrong.2 wrong.1
    · have none : readExponent? (letter :: cs) = none := if_neg e
      rw [none] at read
      cases read

theorem ne_sign_of_isDigit {c : Char} (digit : c.isDigit = true) : c ≠ '-' ∧ c ≠ '+' :=
  ⟨ne_of_isDigit digit rfl, ne_of_isDigit digit rfl⟩

theorem readExponent?_complete {cs : List Char} {exponent : Int}
    (spells : SpellsPower cs exponent) : readExponent? cs = some exponent := by
  cases spells with
  | none => rfl
  | @some letter sign digits negative e signed each ne =>
    have split := splitSign_complete signed fun c mem =>
      ne_sign_of_isDigit (each c (List.mem_of_mem_head? mem))
    have right : ¬ (digits.isEmpty || !digits.all Char.isDigit) = true := by
      simp only [Bool.or_eq_true, not_or, Bool.not_eq_true', Bool.not_eq_false,
        List.isEmpty_iff, List.all_eq_true]
      exact ⟨ne, each⟩
    rw [readExponent?_cons e, split, if_neg right]
    rfl

/-! ## Magnitudes -/

theorem isDigit_of_mem_takeWhile (cs : List Char) :
    ∀ c ∈ cs.takeWhile Char.isDigit, c.isDigit = true :=
  List.all_eq_true.1 List.all_takeWhile

theorem readMagnitude?_sound {cs : List Char} {digits : Nat} {scale : Int}
    (read : readMagnitude? cs = some (digits, scale)) :
    ∃ mantissa power places exponent, cs = mantissa ++ power ∧
      SpellsMantissa mantissa digits places ∧ SpellsPower power exponent ∧
      scale = exponent - (places : Nat) := by
  have before := isDigit_of_mem_takeWhile cs
  have joined := List.takeWhile_append_dropWhile (p := Char.isDigit) (l := cs)
  unfold readMagnitude? at read
  dsimp only at read
  generalize cs.takeWhile Char.isDigit = whole, cs.dropWhile Char.isDigit = after at *
  split at read
  next rest =>
    have after := isDigit_of_mem_takeWhile rest
    have joined' := List.takeWhile_append_dropWhile (p := Char.isDigit) (l := rest)
    dsimp only at read
    generalize rest.takeWhile Char.isDigit = places, rest.dropWhile Char.isDigit = power at *
    by_cases empty : (whole.isEmpty && places.isEmpty) = true
    · rw [if_pos empty] at read
      cases read
    · rw [if_neg empty] at read
      obtain ⟨exponent, powers, made⟩ := Option.bind_eq_some_iff.1 read
      cases made
      have some : whole ++ places ≠ [] := by simpa using empty
      rw [← foldDigits_append]
      refine ⟨_, _, _, _, ?_, .pointed before after some, readExponent?_sound powers, rfl⟩
      rw [← joined, ← joined', List.append_assoc, List.cons_append]
  next =>
    dsimp only at read
    by_cases empty : (whole.isEmpty && List.isEmpty ([] : List Char)) = true
    · rw [if_pos empty] at read
      cases read
    · rw [if_neg empty] at read
      obtain ⟨exponent, powers, made⟩ := Option.bind_eq_some_iff.1 read
      cases made
      have some : whole ≠ [] := by simpa using empty
      exact ⟨_, _, _, _, joined.symm, .whole before some, readExponent?_sound powers, rfl⟩

/-- A power of ten begins with no digit and with no point. -/
theorem SpellsPower.head {power : List Char} {exponent : Int}
    (spells : SpellsPower power exponent) : ∀ c ∈ power.head?, c.isDigit = false ∧ c ≠ '.' := by
  cases spells with
  | none => exact nofun
  | some e signed each some =>
    intro c mem
    cases mem
    rcases e with rfl | rfl
    · decide
    · decide

theorem readMagnitude?_complete {mantissa power : List Char} {digits places : Nat} {exponent : Int}
    (written : SpellsMantissa mantissa digits places) (scaled : SpellsPower power exponent) :
    readMagnitude? (mantissa ++ power) = some (digits, exponent - places) := by
  have read := readExponent?_complete scaled
  cases written with
  | whole each some =>
    have whole := readMagnitude?_whole_append each some scaled.head read
    rwa [← Int.sub_zero exponent] at whole
  | pointed before after some =>
    have pointed := readMagnitude?_pointed_append before after some
      (fun c mem => (scaled.head c mem).1) read
    rwa [List.append_assoc, List.cons_append]

theorem SpellsMantissa.isNumeral {mantissa : List Char} {digits places : Nat}
    (written : SpellsMantissa mantissa digits places) : IsNumeral mantissa := by
  cases written with
  | whole each some => exact .whole each some
  | pointed before after some => exact .pointed before after some

end Decimal

namespace Binary

open Decimal (Spells SpellsSign splitSign)

variable {f : Format}

/-- The text is a sign and one of the words, in any case, and stands for the number. -/
inductive SpellsWord : List Char → Binary f → Prop
  | infinite {sign word : List Char} {negative : Bool} (signed : SpellsSign sign negative)
    (letters : String.ofList (word.map Char.toLower) = "inf" ∨
      String.ofList (word.map Char.toLower) = "infinity") :
    SpellsWord (sign ++ word) (.infinite negative)
  | nan {sign word : List Char} {negative : Bool} (signed : SpellsSign sign negative)
    (letters : String.ofList (word.map Char.toLower) = "nan") : SpellsWord (sign ++ word) .nan

theorem readChars?_eq_splitSign (cs : List Char) :
    (readChars? cs : Option (Binary f)) =
      readUnsigned? (splitSign cs).1 (splitSign cs).2 := by
  unfold readChars?
  split
  · rfl
  · rfl
  next minus plus =>
    unfold splitSign
    split
    · exact (minus _ rfl).elim
    · exact (plus _ rfl).elim
    · rfl

theorem readChars?_sound {cs : List Char} {x : Binary f} (read : readChars? cs = some x) :
    SpellsWord cs x ∨ ∃ d, Spells cs d ∧ x = d.toBinary f := by
  obtain ⟨sign, signed, split⟩ := Decimal.splitSign_sound cs
  rw [readChars?_eq_splitSign] at read
  generalize (splitSign cs).1 = negative, (splitSign cs).2 = rest at *
  subst split
  unfold readUnsigned? at read
  dsimp only at read
  split at read
  next infinite =>
    cases read
    exact .inl (.infinite signed infinite)
  next =>
    split at read
    next nan =>
      cases read
      exact .inl (.nan signed nan)
    next =>
      obtain ⟨⟨digits, scale⟩, magnitude, made⟩ := Option.bind_eq_some_iff.1 read
      obtain ⟨mantissa, power, places, exponent, rfl, written, scaled, rfl⟩ :=
        Decimal.readMagnitude?_sound magnitude
      cases made
      exact .inr ⟨_, .mk signed written scaled, rfl⟩

theorem readChars?_of_spells {cs : List Char} {d : Decimal} (spells : Spells cs d) :
    readChars? cs = some (d.toBinary f) := by
  obtain @⟨sign, _, power, _, _, _, _, signed, written, scaled⟩ := spells
  have magnitude := Decimal.readMagnitude?_complete written scaled
  obtain ⟨c, rest, rfl, first⟩ := written.isNumeral.head
  rw [List.cons_append] at magnitude ⊢
  have clear : ∀ c' ∈ (c :: (rest ++ power)).head?, c' ≠ '-' ∧ c' ≠ '+' := by
    intro c' mem
    cases mem
    rcases first with digit | rfl
    · exact Decimal.ne_sign_of_isDigit digit
    · decide
  rw [readChars?_eq_splitSign, Decimal.splitSign_complete signed clear]
  rw [readUnsigned?_of_head first, magnitude]
  rfl

/-- A word for a number begins with no sign. -/
theorem ne_sign_of_toLower {word : List Char} {c : Char} {rest : List Char}
    (letters : String.ofList (word.map Char.toLower) = String.ofList (c :: rest))
    (letter : c ≠ '-' ∧ c ≠ '+') : ∀ c' ∈ word.head?, c' ≠ '-' ∧ c' ≠ '+' := by
  have chars := String.ofList_injective letters
  cases word with
  | nil => exact nofun
  | cons c' word =>
    intro c'' mem
    cases mem
    cases chars
    refine ⟨?_, ?_⟩
    · rintro rfl
      exact letter.1 rfl
    · rintro rfl
      exact letter.2 rfl

theorem readChars?_of_spellsWord {cs : List Char} {x : Binary f} (spells : SpellsWord cs x) :
    readChars? cs = some x := by
  cases spells with
  | infinite signed letters =>
    have clear := letters.elim (ne_sign_of_toLower · (by decide))
      (ne_sign_of_toLower · (by decide))
    rw [readChars?_eq_splitSign, Decimal.splitSign_complete signed clear]
    exact if_pos letters
  | nan signed letters =>
    have clear := ne_sign_of_toLower letters (by decide)
    rw [readChars?_eq_splitSign, Decimal.splitSign_complete signed clear]
    unfold readUnsigned?
    rw [letters]
    rfl

/-- The texts that are read are those that write a decimal, which is rounded, and the words. -/
theorem readChars?_iff {cs : List Char} {x : Binary f} :
    readChars? cs = some x ↔ SpellsWord cs x ∨ ∃ d, Spells cs d ∧ x = d.toBinary f := by
  constructor
  · exact readChars?_sound
  · rintro (word | ⟨d, spells, rfl⟩)
    · exact readChars?_of_spellsWord word
    · exact readChars?_of_spells spells

end Binary

end Scriptlet
