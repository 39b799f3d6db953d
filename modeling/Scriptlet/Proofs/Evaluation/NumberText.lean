import Scriptlet.Proofs.Evaluation.NumberTokens
import Scriptlet.Proofs.Number.Integers
import Scriptlet.Proofs.Number.Shortest
import Scriptlet.Proofs.Number.Spelling
import Scriptlet.Proofs.Number.Text

/-
  Numbers and their texts, as hosts and scripts see them.
  What a number is converted to as a text is converted back to that number, also with blanks around
  it, since no blank is in the text of a number (`convert_padded_text`). The text of a finite number
  without a minus is one token, a program that comes to the number (`execute_text`). Main statement:
  `Value.number_text_faithful`.
-/

namespace Scriptlet

/-! ## Blanks around a text -/

/-- Blanks around what begins and ends with none are left out. -/
theorem Text.trim_padded {before cs after : List Char}
    (blank : ∀ c ∈ before ++ after, isBlank c = true) (visible : ∀ c ∈ cs, isBlank c = false)
    (ne : cs ≠ []) : trim (before ++ cs ++ after) = cs := by
  have leading : ∀ c ∈ before, isBlank c = true :=
    fun c mem => blank c (List.mem_append_left _ mem)
  have trailing : ∀ c ∈ after.reverse, isBlank c = true :=
    fun c mem => blank c (List.mem_append_right _ (List.mem_reverse.1 mem))
  have stops {ds : List Char} (more : List Char) (ne : ds ≠ [])
      (each : ∀ c ∈ ds, isBlank c = false) : (ds ++ more).dropWhile isBlank = ds ++ more := by
    obtain ⟨c, ds, rfl⟩ := List.exists_cons_of_ne_nil ne
    exact List.dropWhile_cons_of_neg (by simp [each])
  have last := stops [] (List.reverse_ne_nil_iff.2 ne) fun c mem =>
    visible c (List.mem_reverse.1 mem)
  rw [List.append_nil] at last
  unfold trim
  rw [List.append_assoc, List.dropWhile_append_of_pos leading, stops after ne visible,
    List.reverse_append, List.dropWhile_append_of_pos trailing, last, List.reverse_reverse]

namespace Binary

variable {f : Format} {x : Binary f}

theorem isBlank_eq_false_of_any {cs : List Char} (none : cs.any Text.isBlank = false) :
    ∀ c ∈ cs, Text.isBlank c = false :=
  fun c mem => Bool.eq_false_iff.2 (List.any_eq_false.1 none c mem)

theorem isBlank_eq_false_of_numeral {cs : List Char} (numeral : Decimal.IsNumeral cs) :
    ∀ c ∈ cs, Text.isBlank c = false := by
  have digit {c : Char} (each : c.isDigit = true) : Text.isBlank c = false :=
    Bool.eq_false_iff.2 fun blank => by
      rw [(not_in_token_of_isBlank blank).2.1] at each
      cases each
  intro c mem
  rcases numeral.digit_or_point c mem with each | rfl
  · exact digit each
  · decide

/-- No blank is in the text of a number. -/
theorem isBlank_eq_false_of_mem_textChars (x : Binary f) :
    ∀ c ∈ x.textChars, Text.isBlank c = false := by
  cases x with
  | nan => exact isBlank_eq_false_of_any rfl
  | infinite negative =>
    cases negative with
    | false => exact isBlank_eq_false_of_any rfl
    | true => exact isBlank_eq_false_of_any rfl
  | finite negative units fits =>
    have magnitude := isBlank_eq_false_of_numeral (isNumeral_magnitudeText f units)
    cases negative with
    | false => exact magnitude
    | true => exact List.forall_mem_cons.2 ⟨by decide, magnitude⟩

theorem textChars_ne_nil (x : Binary f) : x.textChars ≠ [] := by
  intro empty
  have reads := readChars?_textChars x
  rw [empty] at reads
  cases reads

/-- A finite number without a minus is written as a numeral. -/
theorem isNumeral_textChars (finite : x.Finite) (positive : x.isNegative = false) :
    Decimal.IsNumeral x.textChars := by
  obtain ⟨negative, units, fits, rfl⟩ := finite
  cases positive
  exact isNumeral_magnitudeText f units

end Binary

namespace Value

variable {x : Single}

/-- The text of a number converts to the number, with any blanks around it. -/
theorem convert_padded_text (x : Single) {before after : List Char}
    (blank : ∀ c ∈ before ++ after, Text.isBlank c = true) :
    (Value.string (String.ofList (before ++ x.text.toList ++ after))).convert .single = .ok x := by
  have chars : x.text.toList = x.textChars := String.toList_ofList
  have trimmed := Text.trim_padded blank (Binary.isBlank_eq_false_of_mem_textChars x)
    x.textChars_ne_nil
  rw [convert_single_eq_ok_iff]
  show Binary.readChars? (Text.trim (String.ofList _).toList) = some x
  rw [String.toList_ofList, chars, trimmed]
  exact Binary.readChars?_textChars x

theorem convert_string_eq_ok_iff {s : String} {x : Single} :
    (Value.string s).convert .single = .ok x ↔
      Binary.SpellsWord (Text.trim s.toList) x ∨
        ∃ d, Decimal.Spells (Text.trim s.toList) d ∧ x = d.toBinary .single :=
  convert_single_eq_ok_iff.trans Binary.readChars?_iff

/-- The text of a number is one token, and as a program it comes to the number. -/
theorem execute_text (finite : x.Finite) (positive : x.isNegative = false) (fuel : Nat)
    (scope : ScopeId) (s : State) :
    Interpreter.execute fuel scope x.text s = .value (.number x) s := by
  have chars : x.text.toList = x.textChars := String.toList_ofList
  have numeral : Decimal.IsNumeral x.text.toList :=
    chars.symm ▸ Binary.isNumeral_textChars finite positive
  have reads : Binary.read? x.text = some x := by
    unfold Binary.read?
    rw [chars]
    exact Binary.readChars?_textChars x
  exact execute_numeral numeral reads fuel scope s

/-- Numbers survive the trip through text. What a number is converted to as a text is converted back
to it, also with blanks around it; as a program the text of a finite number without a minus comes to
it. A finite number is written with the fewest digits that are rounded to it, without a power of ten
and without a zero or a point that could be left out. A text is converted to a number if it is a
word for one or writes a decimal, which is rounded correctly. -/
theorem number_text_faithful :
    (∀ x : Single, x ≠ .nan → ∃ s : String, (Value.number x).convert .string = .ok s ∧
      ∀ before after : List Char, (∀ c ∈ before ++ after, Text.isBlank c = true) →
        (Value.string (String.ofList (before ++ s.toList ++ after))).convert .single = .ok x) ∧
    (∀ x : Single, x.Finite → x.isNegative = false → ∀ fuel scope s,
      Interpreter.execute fuel scope (Value.number x).text s = .value (.number x) s) ∧
    (∀ x : Single, x.Finite → ∃ d : Decimal,
      d.SpellsPlain (Value.number x).text.toList ∧ d.ShortestOf x) ∧
    ∀ (s : String) (x : Single), (Value.string s).convert .single = .ok x ↔
      Binary.SpellsWord (Text.trim s.toList) x ∨
        ∃ d : Decimal, Decimal.Spells (Text.trim s.toList) d ∧ x = d.toBinary .single ∧
          d.RoundsTo x := by
  refine ⟨fun x _ => ⟨x.text, rfl, fun _ _ => convert_padded_text x⟩, fun _ => execute_text, ?_,
    fun s x => ?_⟩
  · rintro x ⟨negative, units, fits, rfl⟩
    obtain ⟨d, spells, shortest⟩ := Binary.exists_shortest (f := .single) (by decide) negative fits
    exact ⟨d, String.toList_ofList.symm ▸ spells, shortest⟩
  · rw [convert_string_eq_ok_iff]
    refine or_congr_right (exists_congr fun d => and_congr_right fun _ => ⟨?_, And.left⟩)
    rintro rfl
    exact ⟨rfl, d.roundsTo_toBinary (by decide)⟩

/-- The least number above zero is written with a digit behind 44 zeros, and read with blanks around
it and as a program. -/
theorem number_text_faithful_least : ∃ x : Single, x.rank = 1 ∧
    (Value.number x).convert .string =
      .ok "0.000000000000000000000000000000000000000000001" ∧
    (Value.string "\u3000 0.000000000000000000000000000000000000000000001\n").convert .single =
      .ok x ∧
    Interpreter.execute 0 State.root "0.000000000000000000000000000000000000000000001"
      (.initial {}) = .value (.number x) (.initial {}) ∧
    ∃ d : Decimal, d.ShortestOf x ∧
      d.SpellsPlain "0.000000000000000000000000000000000000000000001".toList := by
  obtain ⟨texts, programs, shortest, -⟩ := number_text_faithful
  let x : Single := .finite false 1 (by decide)
  have finite : x.Finite := ⟨_, _, _, rfl⟩
  have text : x.text = "0.000000000000000000000000000000000000000000001" := by decide +kernel
  have blank : ∀ c ∈ ['\u3000', ' '] ++ ['\n'], Text.isBlank c = true := List.all_eq_true.1 rfl
  obtain ⟨s, written, padded⟩ := texts x nofun
  have same : x.text = s := Except.ok.inj written
  have read := padded ['\u3000', ' '] ['\n'] blank
  have run := programs x finite rfl 0 State.root (.initial {})
  obtain ⟨d, plain, fewest⟩ := shortest x finite
  rw [← same, text] at written read
  exact ⟨x, rfl, written, read, text ▸ run, d, fewest, text ▸ plain⟩

end Value

end Scriptlet
