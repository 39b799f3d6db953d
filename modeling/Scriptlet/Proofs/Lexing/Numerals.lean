import Scriptlet.Proofs.Lexing.Cover

/-
  The number tokens of a source.
  A token other than that of the end is what the rules take at its place (`exists_taken_of_list`),
  and the scan of a number stops only where no longer numeral begins (`not_isNumeral_of_number`).
  So, whatever the rules are, a number token is a numeral that the next character of the source does
  not extend, and it reads as a number without a sign (`numberIn_of_tokenizeWith`).
-/

namespace Scriptlet

open Decimal (IsNumeral)

/-! ## Where the scan of a number stops -/

/-- A numeral has at most one point. -/
theorem Decimal.IsNumeral.count_point_le {cs : List Char} (h : IsNumeral cs) :
    cs.count '.' ≤ 1 := by
  have none {digits : List Char} (each : ∀ c ∈ digits, c.isDigit = true) :
      digits.count '.' = 0 :=
    List.count_eq_zero.2 fun mem => Bool.noConfusion (each '.' mem)
  cases h with
  | whole each some =>
    rw [none each]
    exact Nat.zero_le 1
  | pointed before after some =>
    rw [List.count_append, List.count_cons_self, none before, none after]

namespace Rule

variable {offset : Nat} {cs : List Char} {s : Split}

/-- What follows a scanned number is no digit, and no point unless one has been passed. -/
theorem scanNumber_stops (seenPoint : Bool) (cs : List Char) :
    ∀ c ∈ (scanNumber seenPoint cs).2.head?, c.isDigit = false ∧
      (c = '.' → seenPoint = true ∨ '.' ∈ (scanNumber seenPoint cs).1) := by
  fun_induction scanNumber seenPoint cs with
  | case1 =>
    intro c mem
    cases mem
  | case2 seenPoint c cs digit body rest split ih =>
    rw [split] at ih
    intro d mem
    obtain ⟨noDigit, point⟩ := ih d mem
    exact ⟨noDigit, fun eq => (point eq).imp_right (List.mem_cons_of_mem c)⟩
  | case3 seenPoint c cs noDigit point body rest split ih =>
    rw [split] at ih
    intro d mem
    exact ⟨(ih d mem).1, fun _ => .inr (point.1 ▸ List.mem_cons_self)⟩
  | case4 seenPoint c cs noDigit noPoint =>
    intro d first
    obtain rfl : c = d := Option.some.inj first
    refine ⟨Bool.eq_false_iff.2 noDigit, fun eq => .inl ?_⟩
    exact eq_true_of_ne_false fun unseen => noPoint ⟨eq, unseen⟩

/-- The number at the head of a text is not the beginning of a longer one. -/
theorem not_isNumeral_of_number (h : Rule.number.recognize offset cs = .ok (some s)) :
    ∀ c ∈ s.rest.head?, ¬ IsNumeral (s.lexeme ++ [c]) := by
  simp only [recognize, Except.ok.injEq, Option.ite_none_right_eq_some] at h
  obtain ⟨-, h⟩ := h
  cases h
  intro c next longer
  obtain ⟨noDigit, point⟩ := scanNumber_stops false cs c next
  have isPoint : c = '.' := by
    rcases longer.digit_or_point c (List.mem_append_right _ List.mem_cons_self) with digit | eq
    · rw [noDigit] at digit
      cases digit
    · exact eq
  have passed : '.' ∈ (scanNumber false cs).1 := (point isPoint).resolve_left Bool.noConfusion
  have before : 0 < (scanNumber false cs).1.count '.' := List.count_pos_iff.2 passed
  have few : ((scanNumber false cs).1 ++ ['.']).count '.' ≤ 1 := isPoint ▸ longer.count_point_le
  rw [List.count_append, List.count_singleton_self] at few
  omega

end Rule

namespace Token

variable {rules : List Rule} {offset : Nat} {cs : List Char} {ts : List Token}

/-! ## Tokens in their places -/

/-- A token other than that of the end is what the rules take where it begins. -/
theorem exists_taken_of_list {text before : List Char} (h : list rules offset cs = .ok ts)
    (whole : text = before ++ cs) (size : Text.byteLength before = offset) :
    ∀ t ∈ ts, t.kind ≠ .endOfInput → ∃ passed c after split, text = passed ++ c :: after ∧
      first? rules (Text.byteLength passed) c after = .ok (some split) ∧
      t = ⟨split.kind, String.ofList split.lexeme, ⟨Text.byteLength passed,
        Text.byteLength passed + Text.byteLength split.lexeme⟩⟩ := by
  fun_induction list rules offset cs generalizing ts before with
  | case1 =>
    cases h
    intro t mem ordinary
    rw [List.mem_singleton.1 mem] at ordinary
    exact absurd rfl ordinary
  | case2 => cases h
  | case3 => cases h
  | case4 offset cs c rest visible start split taken =>
    rename_i ih
    obtain ⟨later, made, rfl⟩ := Rule.map_ok_iff.1 h
    have parted := List.takeWhile_append_dropWhile (p := Text.isBlank) (l := cs)
    rw [visible] at parted
    have here : Text.byteLength (before ++ cs.takeWhile Text.isBlank) = start := by
      rw [Text.byteLength_append, size]
    intro t mem ordinary
    rcases List.mem_cons.1 mem with rfl | mem
    · refine ⟨before ++ cs.takeWhile Text.isBlank, c, rest, split, ?_, here ▸ taken, ?_⟩
      · rw [whole, List.append_assoc, parted]
      · rw [here]
    · obtain ⟨rule, -, -, accepted⟩ := exists_rule_of_first? taken
      have after : text = before ++ cs.takeWhile Text.isBlank ++ split.lexeme ++ split.rest := by
        rw [whole, List.append_assoc, List.append_assoc, Rule.recognize_append accepted, parted]
      refine ih made after ?_ t mem ordinary
      rw [Text.byteLength_append, here]

/-- The token is a number of the source: a numeral that stands there, that the next character does
not extend, and that reads as a number without a sign. -/
structure NumberIn (source : String) (t : Token) : Prop where
  numeral : IsNumeral t.lexeme.toList
  place : ∃ before after, source.toList = before ++ (t.lexeme.toList ++ after) ∧
    Text.byteLength before = t.span.start ∧
    Text.byteLength (before ++ t.lexeme.toList) = t.span.stop ∧
    ∀ c ∈ after.head?, ¬ IsNumeral (t.lexeme.toList ++ [c])
  reads : ∃ x : Single, Binary.read? t.lexeme = some x ∧ x.Unsigned

/-- By whatever rules the tokens are made, each number token is a number of the source. -/
theorem numberIn_of_tokenizeWith {source : String} (h : tokenizeWith rules source = .ok ts) :
    ∀ t ∈ ts, t.kind = .number → NumberIn source t := by
  intro t mem number
  have ordinary : t.kind ≠ .endOfInput := by
    rw [number]
    decide
  have whole : source.toList = [] ++ source.toList := rfl
  obtain ⟨before, c, after, split, text, taken, rfl⟩ :=
    exists_taken_of_list h whole rfl t mem ordinary
  obtain ⟨rule, -, -, made⟩ := exists_rule_of_first? taken
  have kind := Rule.kind_mem_kinds made
  rw [show split.kind = .number from number] at kind
  obtain rfl := Rule.rule_eq_of_mem_kinds .number (by decide) kind
  have chars : (String.ofList split.lexeme).toList = split.lexeme := String.toList_ofList
  have numeral := Rule.isNumeral_of_number made
  refine ⟨chars.symm ▸ numeral, ⟨before, split.rest, ?_, rfl, ?_, ?_⟩, ?_⟩
  · rw [chars, Rule.recognize_append made, text]
  · rw [chars, Text.byteLength_append]
  · rw [chars]
    exact Rule.not_isNumeral_of_number made
  · unfold Binary.read?
    rw [chars]
    exact Binary.exists_unsigned_of_numeral numeral

end Token

end Scriptlet
