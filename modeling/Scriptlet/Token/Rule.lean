import Scriptlet.Token.Basic
import Scriptlet.Diagnostic

/-
  The rules by which a token is recognised at the head of a text.
  A rule is tried where its start test holds; it then splits the text into a lexeme and the rest,
  or declines, or finds a fault. Main statement: where a rule may start, the lexeme it accepts is
  not empty, so every accepted token shortens the text.
-/

namespace Scriptlet

/-- What is wrong with a text that falls into no tokens. -/
inductive LexFault where
  /-- A backslash in a string is not followed by a quote. -/
  | unsupportedEscape (span : Span)
  /-- A string does not end on its line. -/
  | unterminatedString (span : Span)
  /-- No rule accepts a character; the labels are those of the rules in use. -/
  | unexpectedCharacter (c : Char) (span : Span) (labels : List String)
deriving DecidableEq

namespace LexFault

/-- Where a fault lies. -/
def span : LexFault → Span
  | .unsupportedEscape span => span
  | .unterminatedString span => span
  | .unexpectedCharacter _ span _ => span

/-- The wording of a fault. -/
def message : LexFault → String
  | .unsupportedEscape _ => "unsupported escape sequence in string literal"
  | .unterminatedString _ => "unterminated string literal"
  | .unexpectedCharacter c _ _ => "unexpected character `" ++ c.toString ++ "`"

/-- What would have been accepted. -/
def expected : LexFault → List String
  | .unsupportedEscape _ => ["`\\\"`"]
  | .unterminatedString _ => ["`\"`"]
  | .unexpectedCharacter _ _ labels => labels

/-- The diagnostic of a fault, without a position. -/
def diagnostic (fault : LexFault) : Diagnostic :=
  { kind := .lexer, message := fault.message, span := some fault.span,
    expected := fault.expected }

end LexFault

/-- The token rules. -/
inductive Rule where
  | quotedText
  | twoCharOperator
  | oneCharOperator
  | number
  | keyword
  | identifier
deriving DecidableEq

namespace Rule

/-- The rules in the order they are tried. -/
def defaults : List Rule :=
  [.quotedText, .twoCharOperator, .oneCharOperator, .number, .keyword, .identifier]

/-- The name of a rule in the list of what would have been accepted. -/
def label : Rule → String
  | .quotedText => "string"
  | .twoCharOperator => "operator"
  | .oneCharOperator => "operator"
  | .number => "number"
  | .keyword => "keyword"
  | .identifier => "identifier"

/-- Whether `c` begins the fixed text of one of the kinds. -/
def beginsOneOf (kinds : List TokenKind) (c : Char) : Bool :=
  kinds.any fun kind => kind.spellingChars.head? == some c

/-- Whether a token of the rule can begin with `c`. -/
def canStart (rule : Rule) (c : Char) : Bool :=
  match rule with
  | .quotedText => c == '"'
  | .twoCharOperator => beginsOneOf TokenKind.twoCharOperators c
  | .oneCharOperator => beginsOneOf TokenKind.oneCharOperators c
  | .number => c.isDigit || c == '.'
  | .keyword => beginsOneOf TokenKind.keywords c
  | .identifier => Text.isNameStart c

/-- A text split after a token. -/
structure Split where
  kind : TokenKind
  lexeme : List Char
  rest : List Char
deriving DecidableEq

/-! ## Scanners -/

/-- Splits after the closing quote. The text follows the opening quote of a string that begins at
`start` and stands at `offset` itself. -/
def scanQuoted (start offset : Nat) : List Char → Except LexFault (List Char × List Char)
  | [] => .error (.unterminatedString ⟨start, offset⟩)
  | '"' :: rest => .ok (['"'], rest)
  | '\\' :: '"' :: rest =>
    (scanQuoted start (offset + 2) rest).map fun (body, rest) => ('\\' :: '"' :: body, rest)
  | c :: rest =>
    if c = '\\' then .error (.unsupportedEscape ⟨offset, offset + 1⟩)
    else if c = '\n' ∨ c = '\r' then .error (.unterminatedString ⟨start, offset⟩)
    else (scanQuoted start (offset + c.utf8Size) rest).map fun (body, rest) => (c :: body, rest)

/-- Splits after the digits and the first point among them; `seenPoint` tells that a point has
been passed. -/
def scanNumber (seenPoint : Bool) : List Char → List Char × List Char
  | [] => ([], [])
  | c :: cs =>
    if c.isDigit then
      let (body, rest) := scanNumber seenPoint cs
      (c :: body, rest)
    else if c = '.' ∧ seenPoint = false then
      let (body, rest) := scanNumber true cs
      (c :: body, rest)
    else ([], c :: cs)

/-- Splits after the fixed text of the first of the kinds whose text comes next. -/
def scanOneOf (kinds : List TokenKind) (cs : List Char) : Option Split :=
  (kinds.find? fun kind => kind.spellingChars.isPrefixOf cs).map fun kind =>
    ⟨kind, kind.spellingChars, cs.drop kind.spellingChars.length⟩

/-- The word at the head of a text; empty if there is none. -/
def word (cs : List Char) : List Char :=
  cs.takeWhile Text.isWordChar

/-- What follows the word at the head of a text. -/
def afterWord (cs : List Char) : List Char :=
  cs.dropWhile Text.isWordChar

/-- The token of the rule at the head of a text that begins at `offset`, whether or not the start
test holds: nothing if the rule declines. -/
def recognize (rule : Rule) (offset : Nat) (cs : List Char) : Except LexFault (Option Split) :=
  match rule with
  | .quotedText =>
    match cs with
    | [] => .error (.unterminatedString ⟨offset, offset⟩)
    | c :: rest =>
      (scanQuoted offset (offset + c.utf8Size) rest).map fun (body, rest) =>
        some ⟨.string, c :: body, rest⟩
  | .twoCharOperator => .ok (scanOneOf TokenKind.twoCharOperators cs)
  | .oneCharOperator => .ok (scanOneOf TokenKind.oneCharOperators cs)
  | .number =>
    let (body, rest) := scanNumber false cs
    .ok (if body.any Char.isDigit then some ⟨.number, body, rest⟩ else none)
  | .keyword =>
    .ok ((TokenKind.keywords.find? fun kind => kind.spellingChars == word cs).map fun kind =>
      ⟨kind, word cs, afterWord cs⟩)
  | .identifier => .ok (some ⟨.identifier, word cs, afterWord cs⟩)

/-! ## Accepted lexemes -/

theorem map_ok_iff {ε α β : Type} {f : α → β} {r : Except ε α} {b : β} :
    r.map f = .ok b ↔ ∃ a, r = .ok a ∧ f a = b := by
  cases r <;> simp [Except.map]

/-- A scanned string and what follows it make up the text. -/
theorem scanQuoted_append {start offset : Nat} {cs body rest : List Char}
    (h : scanQuoted start offset cs = .ok (body, rest)) : body ++ rest = cs := by
  fun_induction scanQuoted start offset cs generalizing body with
  | case1 => cases h
  | case2 => cases h; rfl
  | case3 offset cs ih =>
    obtain ⟨⟨b, r⟩, hs, hp⟩ := map_ok_iff.1 h
    cases hp
    simp [ih hs]
  | case4 => cases h
  | case5 => cases h
  | case6 offset c cs _ _ _ _ ih =>
    obtain ⟨⟨b, r⟩, hs, hp⟩ := map_ok_iff.1 h
    cases hp
    simp [ih hs]

/-- A scanned number and what follows it make up the text. -/
theorem scanNumber_append (seenPoint : Bool) (cs : List Char) :
    (scanNumber seenPoint cs).1 ++ (scanNumber seenPoint cs).2 = cs := by
  fun_induction scanNumber seenPoint cs <;> simp_all

theorem word_append_afterWord (cs : List Char) : word cs ++ afterWord cs = cs :=
  List.takeWhile_append_dropWhile

/-- A fixed text and what follows it make up the text. -/
theorem scanOneOf_append {kinds : List TokenKind} {cs : List Char} {s : Split}
    (h : scanOneOf kinds cs = some s) : s.lexeme ++ s.rest = cs := by
  obtain ⟨kind, hk, rfl⟩ := Option.map_eq_some_iff.1 h
  have begins := List.find?_some hk
  obtain ⟨t, rfl⟩ := List.isPrefixOf_iff_prefix.1 begins
  simp

/-- The lexeme and the rest of an accepted token make up the text. -/
theorem recognize_append {rule : Rule} {offset : Nat} {cs : List Char} {s : Split}
    (h : rule.recognize offset cs = .ok (some s)) : s.lexeme ++ s.rest = cs := by
  cases rule with
  | quotedText =>
    cases cs with
    | nil => cases h
    | cons c cs =>
      obtain ⟨⟨b, r⟩, hs, hp⟩ := map_ok_iff.1 h
      cases hp
      simp [scanQuoted_append hs]
  | twoCharOperator => exact scanOneOf_append (Except.ok.inj h)
  | oneCharOperator => exact scanOneOf_append (Except.ok.inj h)
  | number =>
    simp only [recognize, Except.ok.injEq, Option.ite_none_right_eq_some] at h
    obtain ⟨_, h⟩ := h
    cases h
    exact scanNumber_append false cs
  | keyword =>
    obtain ⟨kind, _, rfl⟩ := Option.map_eq_some_iff.1 (Except.ok.inj h)
    exact word_append_afterWord cs
  | identifier =>
    cases h
    exact word_append_afterWord cs

theorem spellingChars_ne_nil_of_mem {kind : TokenKind}
    (h : kind ∈ TokenKind.keywords ++ TokenKind.twoCharOperators ++ TokenKind.oneCharOperators) :
    kind.spellingChars ≠ [] := by
  revert kind
  decide

/-- Where a rule may start, the lexeme it accepts is not empty. -/
theorem lexeme_ne_nil {rule : Rule} {offset : Nat} {c : Char} {cs : List Char} {s : Split}
    (start : rule.canStart c = true) (h : rule.recognize offset (c :: cs) = .ok (some s)) :
    s.lexeme ≠ [] := by
  cases rule with
  | quotedText =>
    obtain ⟨⟨b, r⟩, hs, hp⟩ := map_ok_iff.1 h
    cases hp
    simp
  | twoCharOperator =>
    obtain ⟨kind, hk, rfl⟩ := Option.map_eq_some_iff.1 (Except.ok.inj h)
    exact spellingChars_ne_nil_of_mem (by simp [List.mem_of_find?_eq_some hk])
  | oneCharOperator =>
    obtain ⟨kind, hk, rfl⟩ := Option.map_eq_some_iff.1 (Except.ok.inj h)
    exact spellingChars_ne_nil_of_mem (by simp [List.mem_of_find?_eq_some hk])
  | number =>
    simp only [recognize, Except.ok.injEq, Option.ite_none_right_eq_some] at h
    obtain ⟨digit, h⟩ := h
    cases h
    intro empty
    simp only at empty
    simp [empty] at digit
  | keyword =>
    obtain ⟨kind, hk, rfl⟩ := Option.map_eq_some_iff.1 (Except.ok.inj h)
    have spelled := List.find?_some hk
    simp only [beq_iff_eq] at spelled
    simp only [← spelled]
    exact spellingChars_ne_nil_of_mem (by simp [List.mem_of_find?_eq_some hk])
  | identifier =>
    cases h
    simp [word, Text.isWordChar_of_isNameStart start]

/-- Where a rule may start, what it leaves is shorter than the text. -/
theorem rest_length_lt {rule : Rule} {offset : Nat} {c : Char} {cs : List Char} {s : Split}
    (start : rule.canStart c = true) (h : rule.recognize offset (c :: cs) = .ok (some s)) :
    s.rest.length < (c :: cs).length := by
  have whole := congrArg List.length (recognize_append h)
  have := List.length_pos_iff.2 (lexeme_ne_nil start h)
  simp only [List.length_append] at whole
  omega

end Rule

end Scriptlet
