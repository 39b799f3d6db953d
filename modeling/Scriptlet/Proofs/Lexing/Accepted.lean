import Scriptlet.Proofs.Number.Numeral
import Scriptlet.Token.Lexer
import Scriptlet.Token.Quoted

/-
  What the tokens of a source are like.
  An identifier is a word that is no keyword, a number is a numeral, and the text of a string has
  no backslash and no line break (`wellLexed_of_tokenize`). A statement about all tokens of a
  source is one about the first token of a text (`forall_mem_of_list`).
-/

namespace Scriptlet

/-- A word that is not reserved. -/
structure IsName (cs : List Char) : Prop where
  starts : ∃ c rest, cs = c :: rest ∧ Text.isNameStart c = true
  each : ∀ c ∈ cs, Text.isWordChar c = true
  free : ∀ kind ∈ TokenKind.keywords, kind.spellingChars ≠ cs

/-- A text that a string literal can stand for. -/
def IsPlainText (cs : List Char) : Prop :=
  ∀ c ∈ cs, c ≠ '\\' ∧ c ≠ '\n' ∧ c ≠ '\r'

/-- A token whose text is of the form its kind asks for. -/
structure WellLexed (t : Token) : Prop where
  name : t.kind = .identifier → IsName t.lexeme.toList
  numeral : t.kind = .number → Decimal.IsNumeral t.lexeme.toList
  text : t.kind = .string → IsPlainText (Quoted.unquote t.lexeme).toList

namespace Rule

variable {rule : Rule} {offset : Nat} {c : Char} {cs rest : List Char} {s : Split}

/-- The kind of a token whose text is one of the fixed ones is among the kinds looked for. -/
theorem kind_mem_of_scanOneOf {kinds : List TokenKind} (h : scanOneOf kinds cs = some s) :
    s.kind ∈ kinds := by
  obtain ⟨kind, hk, rfl⟩ := Option.map_eq_some_iff.1 h
  exact List.mem_of_find?_eq_some hk

/-- The kinds of the tokens that a rule accepts. -/
def kinds : Rule → List TokenKind
  | .quotedText => [.string]
  | .twoCharOperator => TokenKind.twoCharOperators
  | .oneCharOperator => TokenKind.oneCharOperators
  | .number => [.number]
  | .keyword => TokenKind.keywords
  | .identifier => [.identifier]

theorem kind_mem_kinds (h : rule.recognize offset cs = .ok (some s)) : s.kind ∈ rule.kinds := by
  cases rule with
  | quotedText =>
    cases cs with
    | nil => cases h
    | cons c cs =>
      obtain ⟨⟨b, r⟩, -, made⟩ := map_ok_iff.1 h
      cases made
      exact List.mem_singleton.2 rfl
  | twoCharOperator => exact kind_mem_of_scanOneOf (Except.ok.inj h)
  | oneCharOperator => exact kind_mem_of_scanOneOf (Except.ok.inj h)
  | number =>
    simp only [recognize, Except.ok.injEq, Option.ite_none_right_eq_some] at h
    obtain ⟨-, h⟩ := h
    cases h
    exact List.mem_singleton.2 rfl
  | keyword =>
    obtain ⟨kind, hk, rfl⟩ := Option.map_eq_some_iff.1 (Except.ok.inj h)
    exact List.mem_of_find?_eq_some hk
  | identifier =>
    cases h
    exact List.mem_singleton.2 rfl

/-- A kind without a fixed text is accepted by the rule that is named for it only. -/
theorem rule_eq_of_mem_kinds {kind : TokenKind} (sort : Rule)
    (h : (kind, sort) ∈ [(TokenKind.string, Rule.quotedText), (.number, .number),
      (.identifier, .identifier)]) (mem : kind ∈ rule.kinds) : rule = sort := by
  revert mem
  obtain h | h | h := by simpa using h
  all_goals
    obtain ⟨rfl, rfl⟩ := h
    cases rule <;> decide

/-! ## Numbers -/

/-- After a point only digits are taken. -/
theorem isDigit_of_scanNumber_true (cs : List Char) :
    ∀ c ∈ (scanNumber true cs).1, c.isDigit = true := by
  induction cs with
  | nil => intro c mem; cases mem
  | cons c cs ih =>
    unfold scanNumber
    split
    next digit =>
      intro d mem
      rcases List.mem_cons.1 mem with rfl | mem
      · exact digit
      · exact ih d mem
    next =>
      rw [if_neg (fun both => Bool.noConfusion both.2)]
      intro d mem
      cases mem

/-- What is taken for a number is digits, or digits around one point. -/
theorem scanNumber_forms (cs : List Char) :
    (∀ c ∈ (scanNumber false cs).1, c.isDigit = true) ∨
      ∃ whole places, (scanNumber false cs).1 = whole ++ '.' :: places ∧
        (∀ c ∈ whole, c.isDigit = true) ∧ ∀ c ∈ places, c.isDigit = true := by
  induction cs with
  | nil => exact .inl fun c mem => by cases mem
  | cons c cs ih =>
    unfold scanNumber
    split
    next digit =>
      have first : ∀ xs : List Char, (∀ x ∈ xs, x.isDigit = true) →
          ∀ x ∈ c :: xs, x.isDigit = true := by
        intro xs each x mem
        rcases List.mem_cons.1 mem with rfl | mem
        · exact digit
        · exact each x mem
      rcases ih with each | ⟨whole, places, eq, before, after⟩
      · exact .inl (first _ each)
      · refine .inr ⟨c :: whole, places, ?_, first whole before, after⟩
        exact congrArg (c :: ·) eq
    next =>
      split
      next point =>
        have none : ∀ c ∈ ([] : List Char), c.isDigit = true := fun c mem => by cases mem
        refine .inr ⟨[], (scanNumber true cs).1, ?_, none, isDigit_of_scanNumber_true cs⟩
        rw [point.1]
        rfl
      next => exact .inl fun c mem => by cases mem

theorem isNumeral_of_number (h : Rule.number.recognize offset cs = .ok (some s)) :
    Decimal.IsNumeral s.lexeme := by
  simp only [recognize, Except.ok.injEq, Option.ite_none_right_eq_some] at h
  obtain ⟨digit, h⟩ := h
  cases h
  obtain ⟨d, mem, isDigit⟩ := List.any_eq_true.1 digit
  rcases scanNumber_forms cs with each | ⟨whole, places, eq, before, after⟩
  · exact .whole each (List.ne_nil_of_mem mem)
  · simp only [eq] at mem ⊢
    refine .pointed before after ?_
    intro none
    obtain ⟨rfl, rfl⟩ := List.append_eq_nil_iff.1 none
    rw [List.mem_singleton.1 mem] at isDigit
    cases isDigit

/-! ## Strings -/

theorem unescape_cons_of_ne (h : c ≠ '\\') (cs : List Char) :
    Quoted.unescape (c :: cs) = c :: Quoted.unescape cs := by
  rw [Quoted.unescape]
  intro rest begins
  exact absurd begins h

/-- A scanned string ends with a quote, and what is before it stands for plain text. -/
theorem plainText_of_scanQuoted {start : Nat} {body : List Char}
    (h : scanQuoted start offset cs = .ok (body, rest)) :
    ∃ inner, body = inner ++ ['"'] ∧ IsPlainText (Quoted.unescape inner) := by
  fun_induction scanQuoted start offset cs generalizing body with
  | case1 => cases h
  | case2 =>
    cases h
    exact ⟨[], rfl, fun c mem => by cases mem⟩
  | case3 offset cs ih =>
    obtain ⟨⟨b, r⟩, hs, made⟩ := map_ok_iff.1 h
    cases made
    obtain ⟨inner, rfl, plain⟩ := ih hs
    refine ⟨'\\' :: '"' :: inner, rfl, ?_⟩
    intro c mem
    rcases List.mem_cons.1 (show c ∈ '"' :: Quoted.unescape inner from mem) with rfl | mem
    · decide
    · exact plain c mem
  | case4 => cases h
  | case5 => cases h
  | case6 offset c cs _ _ noEscape noBreak ih =>
    obtain ⟨⟨b, r⟩, hs, made⟩ := map_ok_iff.1 h
    cases made
    obtain ⟨inner, rfl, plain⟩ := ih hs
    refine ⟨c :: inner, rfl, ?_⟩
    rw [unescape_cons_of_ne noEscape]
    intro d mem
    rcases List.mem_cons.1 mem with rfl | mem
    · exact ⟨noEscape, fun eq => noBreak (.inl eq), fun eq => noBreak (.inr eq)⟩
    · exact plain d mem

theorem inside_quotes (inner : List Char) : Quoted.inside ('"' :: (inner ++ ['"'])) = inner := by
  unfold Quoted.inside
  simp

theorem plainText_of_quotedText (h : Rule.quotedText.recognize offset ('"' :: cs) = .ok (some s)) :
    IsPlainText (Quoted.unquoteChars s.lexeme) := by
  obtain ⟨⟨body, rest⟩, scanned, made⟩ := map_ok_iff.1 h
  cases made
  obtain ⟨inner, rfl, plain⟩ := plainText_of_scanQuoted scanned
  unfold Quoted.unquoteChars
  rw [inside_quotes]
  exact plain

/-! ## Words -/

theorem isName_of_identifier (start : Text.isNameStart c = true)
    (free : Rule.keyword.canStart c = true → Rule.keyword.recognize offset (c :: cs) = .ok none) :
    IsName (word (c :: cs)) := by
  have first : word (c :: cs) = c :: word cs := by
    simp [word, Text.isWordChar_of_isNameStart start]
  refine ⟨⟨c, word cs, first, start⟩, fun d mem => List.all_eq_true.1 List.all_takeWhile d mem, ?_⟩
  intro kind mem spelled
  have begins : Rule.keyword.canStart c = true := by
    refine List.any_eq_true.2 ⟨kind, mem, ?_⟩
    rw [spelled, first]
    exact beq_self_eq_true (some c)
  have none := Except.ok.inj (free begins)
  rw [Option.map_eq_none_iff, List.find?_eq_none] at none
  exact none kind mem (beq_iff_eq.2 spelled)

end Rule

namespace Token

variable {rules : List Rule} {offset : Nat} {c : Char} {cs : List Char} {split : Rule.Split}

/-- The rule at place `i` takes the first token of the text `c :: cs`: every rule before it that may
start there declines. -/
structure Takes (rules : List Rule) (offset : Nat) (c : Char) (cs : List Char) (split : Rule.Split)
    (i : Nat) (rule : Rule) : Prop where
  place : rules[i]? = some rule
  start : rule.canStart c = true
  made : rule.recognize offset (c :: cs) = .ok (some split)
  before : ∀ j < i, ∀ earlier, rules[j]? = some earlier → earlier.canStart c = true →
    earlier.recognize offset (c :: cs) = .ok none

theorem exists_takes_of_first? (h : first? rules offset c cs = .ok (some split)) :
    ∃ i rule, Takes rules offset c cs split i rule := by
  induction rules with
  | nil => cases h
  | cons rule rules ih =>
    -- the rules of the tail stand one place further, and the head declines or may not start
    have later : (rule.canStart c = true → rule.recognize offset (c :: cs) = .ok none) →
        first? rules offset c cs = .ok (some split) →
        ∃ i taker, Takes (rule :: rules) offset c cs split i taker := by
      intro declines found
      obtain ⟨i, taker, h⟩ := ih found
      refine ⟨i + 1, taker, h.place, h.start, h.made, ?_⟩
      intro j lt earlier eq starts
      cases j with
      | zero =>
        cases eq
        exact declines starts
      | succ j => exact h.before j (Nat.lt_of_succ_lt_succ lt) earlier eq starts
    rw [first?] at h
    split at h
    next start =>
      split at h
      · cases h
      next made =>
        cases h
        exact ⟨0, rule, rfl, start, made, fun j lt => absurd lt (Nat.not_lt_zero j)⟩
      next declines => exact later (fun _ => declines) h
    next noStart => exact later (fun start => absurd start noStart) h

/-- What is true of the first token of every text, and of the token of the end, is true of every
token of a text. -/
theorem forall_mem_of_list {P : Token → Prop} {ts : List Token}
    (first : ∀ offset c cs split span, first? rules offset c cs = .ok (some split) →
      P ⟨split.kind, String.ofList split.lexeme, span⟩)
    (last : ∀ size, P (.atEnd size)) (h : list rules offset cs = .ok ts) : ∀ t ∈ ts, P t := by
  fun_induction list rules offset cs generalizing ts with
  | case1 offset cs =>
    cases h
    intro t mem
    rw [List.mem_singleton.1 mem]
    exact last _
  | case2 => cases h
  | case3 => cases h
  | case4 offset cs c rest blank start split taken stop =>
    rename_i ih
    obtain ⟨more, made, rfl⟩ := Rule.map_ok_iff.1 h
    intro t mem
    rcases List.mem_cons.1 mem with rfl | mem
    · exact first _ _ _ _ _ taken
    · exact ih made t mem

theorem wellLexed_of_first? {span : Span}
    (h : first? Rule.defaults offset c cs = .ok (some split)) :
    WellLexed ⟨split.kind, String.ofList split.lexeme, span⟩ := by
  obtain ⟨i, rule, at_, start, made, before⟩ := exists_takes_of_first? h
  have mem := Rule.kind_mem_kinds made
  refine ⟨?_, ?_, ?_⟩ <;> intro kind <;> simp only at kind <;> rw [kind] at mem
  · obtain rfl := Rule.rule_eq_of_mem_kinds .identifier (by decide) mem
    have bound : i < 6 := (List.getElem?_eq_some_iff.1 at_).1
    have after : ∀ i < 6, Rule.defaults[i]? = some .identifier → 4 < i := by decide
    have free := before 4 (after i bound at_) .keyword rfl
    cases made
    rw [String.toList_ofList]
    exact Rule.isName_of_identifier start free
  · obtain rfl := Rule.rule_eq_of_mem_kinds .number (by decide) mem
    rw [String.toList_ofList]
    exact Rule.isNumeral_of_number made
  · obtain rfl := Rule.rule_eq_of_mem_kinds .quotedText (by decide) mem
    have quote : c = '"' := beq_iff_eq.1 start
    subst quote
    unfold Quoted.unquote
    rw [String.toList_ofList, String.toList_ofList]
    exact Rule.plainText_of_quotedText made

/-- Every token of a source is of the form its kind asks for. -/
theorem wellLexed_of_tokenize {source : String} {ts : List Token} (h : tokenize source = .ok ts) :
    ∀ t ∈ ts, WellLexed t := by
  refine forall_mem_of_list (fun _ _ _ _ _ => wellLexed_of_first?) (fun size => ?_) h
  exact ⟨fun kind => (by cases kind), fun kind => (by cases kind), fun kind => (by cases kind)⟩

end Token

end Scriptlet
