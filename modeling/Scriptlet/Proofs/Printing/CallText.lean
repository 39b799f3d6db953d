import Mathlib.Data.List.Forall2
import Scriptlet.Proofs.Evaluation.Effect
import Scriptlet.Proofs.Printing.RoundTrip

/-
  Calls as text.
  A number is written as a numeral that reads back as it, with a minus sign before that of a
  negative one, a text in quotes, and the other values as words (`Value.WrittenAs`); every number
  but an infinite one or none, and every text without a backslash and a line break, can be written
  so (`Value.exists_writtenAs`). A call is written as the name and the arguments in parentheses.
  Main statement: the text of a call is read as that call, from its first character to its last one,
  and its arguments come to the values wherever they are evaluated (`parse_callText`).
-/

namespace Scriptlet

/-! ## Values as literals -/

/-- The text writes the value. -/
inductive Value.WrittenAs : Value → String → Prop
  | numeral {x : Single} {text : String} (numeral : Decimal.IsNumeral text.toList)
    (reads : Binary.read? text = some x) : WrittenAs (.number x) text
  | negated {x : Single} {text : String} (numeral : Decimal.IsNumeral text.toList)
    (reads : Binary.read? text = some x) : WrittenAs (.number (-x)) ("-" ++ text)
  | quoted {s : String} (plain : IsPlainText s.toList) : WrittenAs (.string s) (Quoted.quote s)
  | trueWord : WrittenAs (.bool true) "true"
  | falseWord : WrittenAs (.bool false) "false"
  | nullWord : WrittenAs .null "null"

/-- The values that can be written: finite numbers, texts without a backslash and a line break,
truth values and null. -/
def Value.Writable : Value → Prop
  | .number x => ∃ negative units fits, x = .finite negative units fits
  | .string s => IsPlainText s.toList
  | .bool _ => True
  | .null => True
  | .void => False

theorem Value.exists_writtenAs {v : Value} (writable : v.Writable) : ∃ text, v.WrittenAs text := by
  cases v with
  | number x =>
    obtain ⟨negative, units, fits, rfl⟩ := writable
    have numeral := Binary.isNumeral_magnitudeText .single units
    have reads : Binary.readChars? (Binary.magnitudeText .single units) =
        some (.finite false units fits) := by
      rw [Binary.readChars?_eq_readUnsigned? numeral]
      exact Binary.readUnsigned?_magnitudeText fits false
    rw [← String.toList_ofList (l := Binary.magnitudeText .single units)] at numeral reads
    cases negative with
    | false => exact ⟨_, .numeral numeral reads⟩
    | true => exact ⟨_, .negated numeral reads⟩
  | string s => exact ⟨_, .quoted writable⟩
  | bool b =>
    cases b with
    | true => exact ⟨_, .trueWord⟩
    | false => exact ⟨_, .falseWord⟩
  | void => exact writable.elim
  | null => exact ⟨_, .nullWord⟩

/-- The tokens are read as an operand that comes to the value wherever it is evaluated. -/
structure Denotes (ts : List Token) (e : Expr) (v : Value) : Prop where
  opens : Grammar.Opens ts
  reads : Grammar.ReadsUnary ts e
  value : ∀ serve scope s, e.eval serve scope s = .value v s

section

variable {t sign : Token} {value : Literal} {x : Single}

theorem kind_of_literal? (made : Grammar.literal? t = .ok value) :
    t.kind ∈ Wanted.operand.kinds ∧ t.kind ≠ .identifier := by
  unfold Grammar.literal? at made
  split at made
  next kind => rw [kind]; decide
  next kind => rw [kind]; decide
  next kind => rw [kind]; decide
  next kind => rw [kind]; decide
  next kind => rw [kind]; decide
  next => cases made

theorem denotes_literal (made : Grammar.literal? t = .ok value) :
    Denotes [t] (.literal value t.span) value.value where
  opens := Grammar.opens_single (kind_of_literal? made).1
  reads := Grammar.readsUnary_literal made
  value _ _ _ := rfl

theorem denotes_negated (minus : sign.kind = .minus)
    (made : Grammar.literal? t = .ok (.number x)) :
    Denotes [sign, t] (.unary .negate (.literal (.number x) t.span) (sign.span.through t.span))
      (.number (-x)) where
  opens := by
    refine ⟨sign, [t], rfl, ?_, fun name => ?_⟩
    · rw [minus]
      decide
    · cases minus.symm.trans name
  reads := by
    have marks : Grammar.unaryOp? sign.kind = some .negate := by
      rw [minus]
      rfl
    exact Grammar.readsUnary_unary marks (Grammar.readsUnary_literal made)
  value _ _ _ := rfl

end

/-! ## The tokens of a value -/

/-- The text goes on with a comma or a closing parenthesis. -/
def Marked (rest : List Char) : Prop :=
  ∃ tail, rest = ',' :: tail ∨ rest = ')' :: tail

namespace Marked

variable {rest : List Char} (marked : Marked rest)
include marked

theorem endsWord : EndsWord rest := by
  obtain ⟨tail, rfl | rfl⟩ := marked <;> intro c head <;> cases head <;> decide +kernel

theorem endsNumeral : EndsNumeral rest := by
  obtain ⟨tail, rfl | rfl⟩ := marked <;> intro c head <;> cases head <;> decide

end Marked

/-- With `rest` after it the text has tokens that denote the value, and then those of `rest`. -/
def Value.LexedAs (v : Value) (text : String) (rest : List Char) : Prop :=
  ∀ (gap : List Char) (offset : Nat) (tail : List Token), (∀ c ∈ gap, Text.isBlank c = true) →
    Token.list Rule.defaults (offset + Text.byteLength gap + Text.byteLength text.toList) rest =
      .ok tail →
    ∃ ts e, Denotes ts e v ∧
      Token.list Rule.defaults offset (gap ++ (text.toList ++ rest)) = .ok (ts ++ tail)

theorem Literal.lexedAs (value : Literal) {kind : TokenKind} {text : String} {rest : List Char}
    (heads : Heads ⟨kind, text, .zero⟩ rest)
    (made : ∀ span, Grammar.literal? ⟨kind, text, span⟩ = .ok value) :
    value.value.LexedAs text rest :=
  fun _ offset _ blank after =>
    ⟨_, _, denotes_literal (made _), Token.list_of_heads_ok heads blank offset after⟩

theorem literal?_number {x : Single} {text : String} (reads : Binary.read? text = some x)
    (span : Span) : Grammar.literal? ⟨.number, text, span⟩ = .ok (.number x) := by
  unfold Grammar.literal?
  dsimp only
  rw [reads]

/-- A written value has tokens that denote it, if a mark follows. -/
theorem Value.WrittenAs.lexedAs {v : Value} {text : String} (written : v.WrittenAs text)
    {rest : List Char} (marked : Marked rest) : v.LexedAs text rest := by
  cases written with
  | @numeral x _ numeral reads =>
    exact Literal.lexedAs (.number x) (Token.heads_numeral numeral marked.endsNumeral)
      (literal?_number reads)
  | @negated x digits numeral reads =>
    intro gap offset tail blank after
    have length : Text.byteLength ("-" ++ digits).toList =
        Text.byteLength "-".toList + Text.byteLength digits.toList := by
      rw [String.toList_append, Text.byteLength_append]
    rw [length, ← Nat.add_assoc] at after
    have number : Heads ⟨.number, digits, .zero⟩ rest :=
      Token.heads_numeral numeral marked.endsNumeral
    have minus : Heads ⟨.minus, "-", .zero⟩ (digits.toList ++ rest) :=
      Token.heads_mark (by decide) .zero _
    have magnitude := Token.list_of_heads_next number _ after
    have whole := Token.list_of_heads_ok minus blank offset magnitude
    rw [String.toList_append, List.append_assoc]
    exact ⟨[_, _], _, denotes_negated (t := ⟨_, _, _⟩) rfl (literal?_number reads _), whole⟩
  | @quoted s plain =>
    refine Literal.lexedAs (.string s) (Token.heads_quoted plain rest) fun span => ?_
    exact congrArg (fun s => Except.ok (Literal.string s)) (Token.unquote_quote plain)
  | trueWord =>
    have word : Heads ⟨.trueWord, "true", .zero⟩ rest :=
      Token.heads_keyword (by decide) rfl marked.endsWord
    exact Literal.lexedAs (.bool true) word fun _ => rfl
  | falseWord =>
    have word : Heads ⟨.falseWord, "false", .zero⟩ rest :=
      Token.heads_keyword (by decide) rfl marked.endsWord
    exact Literal.lexedAs (.bool false) word fun _ => rfl
  | nullWord =>
    have word : Heads ⟨.nullWord, "null", .zero⟩ rest :=
      Token.heads_keyword (by decide) rfl marked.endsWord
    exact Literal.lexedAs .null word fun _ => rfl

/-! ## The tokens of a call -/

/-- The text of a call. -/
def callText (name : String) (texts : List String) : String :=
  name ++ "(" ++ ", ".intercalate texts ++ ")"

/-- The name is a text that is one identifier. -/
def IsIdentifier (name : String) : Prop :=
  ∃ span size, Token.tokenize name = .ok [⟨.identifier, name, span⟩, .atEnd size]

theorem IsIdentifier.isName {name : String} (identifier : IsIdentifier name) :
    IsName name.toList := by
  obtain ⟨span, size, tokens⟩ := identifier
  exact (Token.wellLexed_of_tokenize tokens _ List.mem_cons_self).name rfl

/-- The texts with a comma and a blank between every two. -/
def argumentChars (texts : List String) : List Char :=
  ", ".toList.intercalate (texts.map String.toList)

theorem argumentChars_single (text : String) : argumentChars [text] = text.toList :=
  List.intercalate_singleton

theorem argumentChars_cons (text next : String) (texts : List String) :
    argumentChars (text :: next :: texts) =
      text.toList ++ ',' :: ' ' :: argumentChars (next :: texts) := by
  unfold argumentChars
  rw [List.map_cons, List.map_cons, List.intercalate_cons_cons, List.append_assoc]
  rfl

/-- The tokens that are read as the arguments `es`, which come to the given values wherever they are
evaluated. -/
structure DenotesAll (ts : List Token) (es : List Expr) (values : List Value) : Prop where
  reads : Grammar.Arguments ts es
  values : ∀ serve scope s, evalArgs serve scope es s = .value values s

theorem DenotesAll.single {ts : List Token} {e : Expr} {v : Value} (first : Denotes ts e v) :
    DenotesAll ts [e] [v] where
  reads := .last first.opens (first.reads.readsAt _)
  values serve scope s := (Run.bind_value (first.value serve scope s)).trans rfl

theorem DenotesAll.cons {ts others : List Token} {comma : Token} {e next : Expr} {es : List Expr}
    {v : Value} {values : List Value} (first : Denotes ts e v) (mark : comma.kind = .comma)
    (later : DenotesAll others (next :: es) values) :
    DenotesAll (ts ++ comma :: others) (e :: next :: es) (v :: values) where
  reads := .more first.opens (first.reads.readsAt _) mark later.reads
  values serve scope s := by
    have rest := later.values serve scope s
    exact (Run.bind_value (first.value serve scope s)).trans (Run.bind_value rest)

/-- A closing parenthesis at the end of a text. -/
def closing (stop : Nat) : List Token :=
  [⟨.rightParen, ")", ⟨stop, stop + 1⟩⟩, .atEnd (stop + 1)]

theorem list_closing (offset : Nat) :
    Token.list Rule.defaults offset [')'] = .ok (closing offset) := by
  have heads : Heads ⟨.rightParen, ")", .zero⟩ [] := Token.heads_mark (by decide) .zero []
  exact Token.list_of_heads_next heads offset (Token.list_of_blank _ rfl)

/-- Written values with commas between them have tokens that denote them, up to the parenthesis that
closes the text. -/
theorem lexed_arguments {args : List Value} {texts : List String}
    (others : List.Forall₂ Value.WrittenAs args texts) {v : Value} {text : String}
    (written : v.WrittenAs text) (gap : List Char) (blank : ∀ c ∈ gap, Text.isBlank c = true)
    (offset : Nat) : ∃ ts e es, DenotesAll ts (e :: es) (v :: args) ∧
      Token.list Rule.defaults offset (gap ++ (argumentChars (text :: texts) ++ [')'])) =
        .ok (ts ++ closing (offset + Text.byteLength gap +
          Text.byteLength (argumentChars (text :: texts)))) := by
  induction others generalizing v text gap offset with
  | nil =>
    have after := list_closing (offset + Text.byteLength gap + Text.byteLength text.toList)
    obtain ⟨ts, e, denotes, tokens⟩ := written.lexedAs ⟨[], .inr rfl⟩ gap offset _ blank after
    rw [argumentChars_single]
    exact ⟨ts, e, [], .single denotes, tokens⟩
  | @cons next nextText args texts second others ih =>
    have space : ∀ c ∈ [' '], Text.isBlank c = true := List.all_eq_true.1 rfl
    let start := offset + Text.byteLength gap + Text.byteLength text.toList
    obtain ⟨more, e', es, denotesAll, after⟩ := ih second [' '] space (start + 1)
    have mark : Heads ⟨.comma, ",", .zero⟩ (' ' :: (argumentChars (nextText :: texts) ++ [')'])) :=
      Token.heads_mark (by decide) .zero _
    have comma : Token.list Rule.defaults start
        (',' :: ' ' :: (argumentChars (nextText :: texts) ++ [')'])) =
          .ok (⟨.comma, ",", ⟨start, start + 1⟩⟩ :: (more ++ closing _)) :=
      Token.list_of_heads_next mark start after
    obtain ⟨ts, e, denotes, tokens⟩ := written.lexedAs ⟨_, .inl rfl⟩ gap offset _ blank comma
    have length : offset + Text.byteLength gap +
        Text.byteLength (argumentChars (text :: nextText :: texts)) =
          start + 1 + Text.byteLength [' '] +
            Text.byteLength (argumentChars (nextText :: texts)) := by
      rw [argumentChars_cons, Text.byteLength_append, Text.byteLength_cons, Text.byteLength_cons,
        Text.byteLength_cons, Text.byteLength_nil]
      have comma : ','.utf8Size = 1 := rfl
      have blank : ' '.utf8Size = 1 := rfl
      omega
    have all : DenotesAll (ts ++ ⟨.comma, ",", ⟨start, start + 1⟩⟩ :: more) (e :: e' :: es)
        (v :: next :: args) := .cons denotes rfl denotesAll
    refine ⟨_, e, e' :: es, all, ?_⟩
    rw [length, argumentChars_cons, List.append_assoc, List.append_assoc]
    exact tokens

/-! ## The program that a call is -/

/-- A source is an expression if its tokens are read as an operand. -/
theorem Program.parse_of_readsUnary {source : String} {ts : List Token} {size : Nat} {e : Expr}
    (tokens : Token.tokenize source = .ok (ts ++ [.atEnd size])) (opens : Grammar.Opens ts)
    (reads : Grammar.ReadsUnary ts e) : Program.parse source = .ok ⟨[.expr e e.span]⟩ := by
  have value : Grammar.readAll .expression (ts ++ [.atEnd size]) = .ok (e, [.atEnd size]) :=
    (reads.readsAt .disjunction).reads (Grammar.ends_endOfInput _)
  have bare : Grammar.bareStatement Grammar.readAll (ts ++ [.atEnd size]) =
      .ok (.expr e e.span, [.atEnd size]) := by
    rw [Grammar.bareStatement_expression opens _ (fun equals => by cases equals)]
    exact Grammar.expressionStatement_ok_iff.2 ⟨e, value, rfl⟩
  have statement : Grammar.readAll .statement (ts ++ [.atEnd size]) =
      .ok (.expr e e.span, [.atEnd size]) :=
    (Grammar.readAll_statement _).trans (Grammar.statement_ok_iff.2 ⟨_, bare, rfl⟩)
  have last : Grammar.readAll .program [.atEnd size] = .ok ([], [.atEnd size]) :=
    (Grammar.readAll_program _).trans (Grammar.program_ok_iff.2 (.inl ⟨rfl, rfl, rfl⟩))
  have filled : Grammar.nextKind (ts ++ [.atEnd size]) ≠ .endOfInput :=
    opens.nextKind_ne _ (by decide)
  have program : Grammar.readAll .program (ts ++ [.atEnd size]) =
      .ok ([.expr e e.span], [.atEnd size]) :=
    (Grammar.readAll_program _).trans
      (Grammar.program_ok_iff.2 (.inr ⟨filled, _, _, [], statement, last, rfl⟩))
  exact parse_ok_iff.2 ⟨_, _, tokens, program⟩

/-- The arguments of a call have tokens that denote them, up to the end of the text. -/
theorem lexed_call {args : List Value} {texts : List String}
    (written : List.Forall₂ Value.WrittenAs args texts) (offset : Nat) :
    ∃ ts es, DenotesAll ts es args ∧
      Token.list Rule.defaults offset (argumentChars texts ++ [')']) =
        .ok (ts ++ closing (offset + Text.byteLength (argumentChars texts))) := by
  cases written with
  | nil =>
    exact ⟨[], [], ⟨.empty, fun _ _ _ => rfl⟩, list_closing offset⟩
  | cons first others =>
    obtain ⟨ts, e, es, denotes, tokens⟩ := lexed_arguments others first [] nofun offset
    exact ⟨ts, e :: es, denotes, tokens⟩

/-- The text of a call is read as that call, which begins and ends with the text; its arguments come
to the values that they write. -/
theorem parse_callText {name : String} (identifier : IsIdentifier name) {args : List Value}
    {texts : List String} (written : List.Forall₂ Value.WrittenAs args texts) :
    ∃ es, (∀ serve scope s, evalArgs serve scope es s = .value args s) ∧
      let whole : Span := ⟨0, Text.byteLength (callText name texts).toList⟩
      Program.parse (callText name texts) = .ok ⟨[.expr (.call name es whole) whole]⟩ := by
  have chars : (callText name texts).toList =
      name.toList ++ '(' :: (argumentChars texts ++ [')']) := by
    unfold callText
    rw [String.toList_append, String.toList_append, String.toList_append, String.toList_intercalate,
      List.append_assoc, List.append_assoc]
    rfl
  let start := 0 + Text.byteLength name.toList
  obtain ⟨ts, es, denotes, arguments⟩ := lexed_call written (start + 1)
  let stop := start + 1 + Text.byteLength (argumentChars texts)
  let nameToken : Token := ⟨.identifier, name, ⟨0, start⟩⟩
  let openingToken : Token := ⟨.leftParen, "(", ⟨start, start + 1⟩⟩
  let closingToken : Token := ⟨.rightParen, ")", ⟨stop, stop + 1⟩⟩
  have mark : Heads ⟨.leftParen, "(", .zero⟩ (argumentChars texts ++ [')']) :=
    Token.heads_mark (by decide) .zero _
  have opening : Token.list Rule.defaults start ('(' :: (argumentChars texts ++ [')'])) =
      .ok (openingToken :: (ts ++ closing stop)) :=
    Token.list_of_heads_next mark start arguments
  have endsWord : EndsWord ('(' :: (argumentChars texts ++ [')'])) := by
    rintro _ ⟨⟩
    decide +kernel
  have word : Heads ⟨.identifier, name, .zero⟩ ('(' :: (argumentChars texts ++ [')'])) :=
    Token.heads_name identifier.isName endsWord
  have tokens : Token.tokenize (callText name texts) =
      .ok ((nameToken :: openingToken :: (ts ++ [closingToken])) ++ [.atEnd (stop + 1)]) := by
    unfold Token.tokenize Token.tokenizeWith
    rw [chars, List.cons_append, List.cons_append, List.append_assoc]
    exact Token.list_of_heads_next word 0 opening
  have opens : Grammar.Opens (nameToken :: openingToken :: (ts ++ [closingToken])) :=
    Grammar.opens_call rfl rfl _
  have reads : Grammar.ReadsUnary (nameToken :: openingToken :: (ts ++ [closingToken]))
      (.call name es (nameToken.span.through closingToken.span)) :=
    Grammar.readsUnary_call rfl rfl rfl denotes.reads
  have length : Text.byteLength (callText name texts).toList = stop + 1 := by
    rw [chars, Text.byteLength_append, Text.byteLength_cons, Text.byteLength_append,
      Text.byteLength_cons, Text.byteLength_nil]
    have parenthesis : '('.utf8Size = 1 ∧ ')'.utf8Size = 1 := ⟨rfl, rfl⟩
    show _ = 0 + Text.byteLength name.toList + 1 + _ + 1
    omega
  refine ⟨es, denotes.values, ?_⟩
  rw [length]
  exact Program.parse_of_readsUnary tokens opens reads

end Scriptlet
