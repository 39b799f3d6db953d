import Mathlib.Data.List.TakeWhile
import Scriptlet.Proofs.Lexing.Accepted

/-
  Reading written tokens back.
  What a token is read from is its own text, unless what follows goes on with it: a word character
  after a word, a digit or a point after a numeral, an equals sign after an operator (`Heads`, with
  one lemma for each sort of token). A token is lexable if it is the first token of its own text,
  whatever blank follows; words, fixed texts, numerals and quoted texts are (`lexable_fixed` and
  after it). Lexable tokens joined by blanks are the tokens of that text (`list_joined`,
  `tokenize_spaced`).
-/

namespace Scriptlet

/-- The text is empty or begins with a blank. -/
def Closed (rest : List Char) : Prop :=
  ∀ c ∈ rest.head?, Text.isBlank c = true

/-- The token is the first one of its text with `rest` after it. -/
def Heads (t : Token) (rest : List Char) : Prop :=
  ∃ c cs, t.lexeme.toList = c :: cs ∧ Text.isBlank c = false ∧
    ∀ offset, Token.first? Rule.defaults offset c (cs ++ rest) = .ok (some ⟨t.kind, c :: cs, rest⟩)

/-- The token is the first one of its text with a blank or nothing after it. -/
def Lexable (t : Token) : Prop :=
  ∃ c cs, t.lexeme.toList = c :: cs ∧ Text.isBlank c = false ∧
    ∀ offset rest, Closed rest →
      Token.first? Rule.defaults offset c (cs ++ rest) = .ok (some ⟨t.kind, c :: cs, rest⟩)

theorem lexable_of_heads {t : Token} (h : ∀ rest, Closed rest → Heads t rest) : Lexable t := by
  obtain ⟨c, cs, chars, visible, -⟩ := h [] nofun
  refine ⟨c, cs, chars, visible, fun offset rest closed => ?_⟩
  obtain ⟨c', cs', chars', -, first⟩ := h rest closed
  cases chars.symm.trans chars'
  exact first offset

theorem Lexable.heads {t : Token} {rest : List Char} (lexable : Lexable t) (closed : Closed rest) :
    Heads t rest := by
  obtain ⟨c, cs, chars, visible, first⟩ := lexable
  exact ⟨c, cs, chars, visible, fun offset => first offset rest closed⟩

/-! ## Characters that tell the rules apart -/

theorem not_in_token_of_isBlank {c : Char} (h : Text.isBlank c = true) :
    Text.isWordChar c = false ∧ c.isDigit = false ∧ c ≠ '.' ∧ c ≠ '=' := by
  have all : Text.blanks.all (fun c => !Text.isWordChar c && !c.isDigit && c != '.' && c != '=') =
      true := by decide +kernel
  simpa [and_assoc] using List.all_eq_true.1 all c (List.contains_iff_mem.1 h)

/-- The text is empty or begins with a character that is in no word. -/
def EndsWord (rest : List Char) : Prop :=
  ∀ c ∈ rest.head?, Text.isWordChar c = false

/-- The text is empty or begins with a character that is in no numeral. -/
def EndsNumeral (rest : List Char) : Prop :=
  ∀ c ∈ rest.head?, c.isDigit = false ∧ c ≠ '.'

/-- The text is empty or begins with a character that ends no operator. -/
def EndsOperator (rest : List Char) : Prop :=
  ∀ c ∈ rest.head?, c ≠ '='

section

variable {rest : List Char} (closed : Closed rest)
include closed

theorem Closed.endsWord : EndsWord rest :=
  fun c head => (not_in_token_of_isBlank (closed c head)).1

theorem Closed.endsNumeral : EndsNumeral rest :=
  fun c head => ⟨(not_in_token_of_isBlank (closed c head)).2.1,
    (not_in_token_of_isBlank (closed c head)).2.2.1⟩

theorem Closed.endsOperator : EndsOperator rest :=
  fun c head => (not_in_token_of_isBlank (closed c head)).2.2.2

end

theorem isBlank_eq_false_of_isWordChar {c : Char} (h : Text.isWordChar c = true) :
    Text.isBlank c = false := by
  refine Bool.eq_false_iff.2 fun blank => ?_
  rw [(not_in_token_of_isBlank blank).1] at h
  cases h

theorem isNameStart_of_isDigit {c : Char} (h : c.isDigit = true) : Text.isNameStart c = false := by
  have bounds : '0'.val ≤ c.val ∧ c.val ≤ '9'.val := by
    simpa [Char.isDigit] using h
  have below : c.toNat < 0x41 := Nat.lt_of_le_of_lt (UInt32.le_iff_toNat_le.1 bounds.2) (by decide)
  have noLetter : Text.isLetter c = false := if_pos below
  unfold Text.isNameStart
  rw [noLetter, Bool.false_or]
  exact beq_eq_false_iff_ne.2 (Decimal.ne_of_isDigit h (by decide))

namespace Rule

variable {c : Char}

/-- What the first character of an operator is not. -/
theorem head_of_operator : ∀ kind ∈ TokenKind.twoCharOperators ++ TokenKind.oneCharOperators,
    ∀ c ∈ kind.spellingChars.head?, Text.isNameStart c = false ∧ c.isDigit = false ∧ c ≠ '.' ∧
      Text.isBlank c = false ∧ c ≠ '"' := by
  have all : (TokenKind.twoCharOperators ++ TokenKind.oneCharOperators).all (fun kind =>
      kind.spellingChars.head?.all fun c => !Text.isNameStart c && !c.isDigit && c != '.' &&
        !Text.isBlank c && c != '"') = true := by decide +kernel
  intro kind mem c head
  have first := List.all_eq_true.1 all kind mem
  rw [Option.mem_def.1 head] at first
  simpa [and_assoc] using first

theorem canStart_operator_eq_false (h : Text.isNameStart c = true ∨ c.isDigit = true ∨ c = '.') :
    Rule.twoCharOperator.canStart c = false ∧ Rule.oneCharOperator.canStart c = false := by
  have none : ∀ kinds : List TokenKind,
      (∀ kind ∈ kinds, kind ∈ TokenKind.twoCharOperators ++ TokenKind.oneCharOperators) →
      beginsOneOf kinds c = false := by
    intro kinds sub
    refine List.any_eq_false.2 fun kind mem begins => ?_
    obtain ⟨notName, notDigit, notPoint, -⟩ :=
      head_of_operator kind (sub kind mem) c (beq_iff_eq.1 begins)
    rcases h with name | digit | point
    · rw [name] at notName
      cases notName
    · rw [digit] at notDigit
      cases notDigit
    · exact notPoint point
  exact ⟨none _ fun kind mem => List.mem_append_left _ mem,
    none _ fun kind mem => List.mem_append_right _ mem⟩

theorem mem_of_canStart_of_isNameStart {rule : Rule} (start : Text.isNameStart c = true)
    (h : rule.canStart c = true) : rule ∈ [keyword, .identifier] := by
  obtain ⟨noTwo, noOne⟩ := canStart_operator_eq_false (.inl start)
  cases rule with
  | quotedText =>
    obtain rfl := beq_iff_eq.1 h
    exact absurd start (by decide +kernel)
  | twoCharOperator =>
    rw [h] at noTwo
    cases noTwo
  | oneCharOperator =>
    rw [h] at noOne
    cases noOne
  | number =>
    rcases Bool.or_eq_true_iff.1 h with digit | point
    · rw [isNameStart_of_isDigit digit] at start
      cases start
    · obtain rfl := beq_iff_eq.1 point
      exact absurd start (by decide +kernel)
  | keyword => decide
  | identifier => decide

end Rule

namespace Token

variable {rule : Rule} {rules : List Rule} {offset : Nat} {c : Char} {cs : List Char}
  {split : Rule.Split}

theorem first?_skip (h : rule.canStart c = true → rule.recognize offset (c :: cs) = .ok none) :
    first? (rule :: rules) offset c cs = first? rules offset c cs := by
  rw [first?]
  split
  next start => rw [h start]
  next => rfl

theorem first?_take (start : rule.canStart c = true)
    (made : rule.recognize offset (c :: cs) = .ok (some split)) :
    first? (rule :: rules) offset c cs = .ok (some split) := by
  rw [first?, if_pos start, made]

theorem skip_of_canStart {β : Prop} (h : rule.canStart c = false) :
    rule.canStart c = true → β := by
  intro start
  rw [h] at start
  cases start

/-! ## Words -/

/-- Only the last two rules look at a text that begins like a name. -/
theorem first?_word (start : Text.isNameStart c = true) (offset : Nat) (cs : List Char) :
    first? Rule.defaults offset c cs = first? [.keyword, .identifier] offset c cs := by
  have skip : ∀ rule ∉ [Rule.keyword, .identifier], ∀ rules,
      first? (rule :: rules) offset c cs = first? rules offset c cs := by
    intro rule other rules
    refine first?_skip fun h => absurd ?_ other
    exact Rule.mem_of_canStart_of_isNameStart start h
  unfold Rule.defaults
  rw [skip .quotedText (by decide), skip .twoCharOperator (by decide),
    skip .oneCharOperator (by decide), skip .number (by decide)]

/-- A word ends where no word character comes. -/
theorem word_append {w rest : List Char} (each : ∀ c ∈ w, Text.isWordChar c = true)
    (stop : EndsWord rest) :
    Rule.word (w ++ rest) = w ∧ Rule.afterWord (w ++ rest) = rest := by
  unfold Rule.word Rule.afterWord
  rw [List.takeWhile_append_of_pos each, List.dropWhile_append_of_pos each]
  cases rest with
  | nil => simp
  | cons c rest => simp [stop c rfl]

theorem spelling_of_keyword : ∀ kind ∈ TokenKind.keywords,
    (∀ c ∈ kind.spellingChars.head?, Text.isNameStart c = true) ∧
    (∀ c ∈ kind.spellingChars, Text.isWordChar c = true) ∧
    TokenKind.keywords.find? (fun other => other.spellingChars == kind.spellingChars) =
      some kind := by
  have all : TokenKind.keywords.all (fun kind => kind.spellingChars.head?.all Text.isNameStart &&
      kind.spellingChars.all Text.isWordChar &&
      TokenKind.keywords.find? (fun other => other.spellingChars == kind.spellingChars) ==
        some kind) = true := by decide +kernel
  intro kind mem
  have checked := List.all_eq_true.1 all kind mem
  rw [Bool.and_eq_true, Bool.and_eq_true, beq_iff_eq, List.all_eq_true] at checked
  obtain ⟨⟨starts, each⟩, found⟩ := checked
  refine ⟨fun c head => ?_, each, found⟩
  rw [Option.mem_def.1 head] at starts
  exact starts

theorem heads_keyword {kind : TokenKind} {lexeme : String} {span : Span} {rest : List Char}
    (mem : kind ∈ TokenKind.keywords) (spelled : lexeme.toList = kind.spellingChars)
    (stop : EndsWord rest) : Heads ⟨kind, lexeme, span⟩ rest := by
  obtain ⟨start, each, found⟩ := spelling_of_keyword kind mem
  have fixed : kind ∈ TokenKind.keywords ++ TokenKind.twoCharOperators ++
      TokenKind.oneCharOperators := by
    simp [mem]
  obtain ⟨c, cs, chars⟩ := List.exists_cons_of_ne_nil (Rule.spellingChars_ne_nil_of_mem fixed)
  have named : Text.isNameStart c = true := start c (by rw [chars]; rfl)
  refine ⟨c, cs, spelled.trans chars, ?_, ?_⟩
  · exact isBlank_eq_false_of_isWordChar (Text.isWordChar_of_isNameStart named)
  · intro offset
    obtain ⟨word, after⟩ := word_append each stop
    have begins : Rule.keyword.canStart c = true := by
      refine List.any_eq_true.2 ⟨kind, mem, ?_⟩
      rw [chars]
      exact beq_self_eq_true (some c)
    rw [first?_word named]
    refine first?_take begins ?_
    rw [chars, List.cons_append] at word after
    unfold Rule.recognize
    rw [word, after, ← chars, found]
    rfl

theorem heads_name {lexeme : String} {span : Span} {rest : List Char}
    (name : IsName lexeme.toList) (stop : EndsWord rest) :
    Heads ⟨.identifier, lexeme, span⟩ rest := by
  obtain ⟨c, cs, chars, start⟩ := name.starts
  refine ⟨c, cs, chars, ?_, ?_⟩
  · exact isBlank_eq_false_of_isWordChar (Text.isWordChar_of_isNameStart start)
  · intro offset
    obtain ⟨word, after⟩ := word_append name.each stop
    rw [chars, List.cons_append] at word after
    rw [first?_word start, first?_skip]
    · refine first?_take start ?_
      unfold Rule.recognize
      rw [word, after]
    · intro
      have none : TokenKind.keywords.find? (fun kind => kind.spellingChars == c :: cs) = none := by
        refine List.find?_eq_none.2 fun kind mem spelled => ?_
        rw [← chars] at spelled
        exact name.free kind mem (beq_iff_eq.1 spelled)
      unfold Rule.recognize
      rw [word, none]
      rfl

theorem lexable_name {lexeme : String} {span : Span} (name : IsName lexeme.toList) :
    Lexable ⟨.identifier, lexeme, span⟩ :=
  lexable_of_heads fun _ closed => heads_name name closed.endsWord

/-! ## Operators -/

theorem scanOneOf_oneChar (rest : List Char) : ∀ kind ∈ TokenKind.oneCharOperators,
    Rule.scanOneOf TokenKind.oneCharOperators (kind.spellingChars ++ rest) =
      some ⟨kind, kind.spellingChars, rest⟩ := by
  intro kind mem
  cases kind <;> first | rfl | exact absurd mem (by decide)

theorem scanOneOf_twoChar (rest : List Char) : ∀ kind ∈ TokenKind.twoCharOperators,
    Rule.scanOneOf TokenKind.twoCharOperators (kind.spellingChars ++ rest) =
      some ⟨kind, kind.spellingChars, rest⟩ := by
  intro kind mem
  cases kind <;> first | rfl | exact absurd mem (by decide)

/-- One character without an equals sign after it is no operator of two characters. -/
theorem scanOneOf_twoChar_eq_none {rest : List Char} (stop : EndsOperator rest) (c : Char) :
    Rule.scanOneOf TokenKind.twoCharOperators (c :: rest) = none := by
  have second : ∀ kind ∈ TokenKind.twoCharOperators, ∃ d, kind.spellingChars = [d, '='] := by
    intro kind mem
    cases kind <;> first | exact ⟨_, rfl⟩ | exact absurd mem (by decide)
  unfold Rule.scanOneOf
  rw [Option.map_eq_none_iff]
  refine List.find?_eq_none.2 fun kind mem begins => ?_
  obtain ⟨d, chars⟩ := second kind mem
  obtain ⟨tail, eq⟩ := List.isPrefixOf_iff_prefix.1 begins
  rw [chars] at eq
  cases eq
  exact stop '=' rfl rfl

theorem first?_operator {kind : TokenKind}
    (mem : kind ∈ TokenKind.twoCharOperators ++ TokenKind.oneCharOperators)
    (head : c ∈ kind.spellingChars.head?) (offset : Nat) (cs : List Char) :
    first? Rule.defaults offset c cs =
      first? [.twoCharOperator, .oneCharOperator, .number, .keyword, .identifier] offset c cs := by
  refine first?_skip (skip_of_canStart ?_)
  exact beq_eq_false_iff_ne.2 (Rule.head_of_operator kind mem c head).2.2.2.2

theorem heads_twoChar {kind : TokenKind} {lexeme : String} {span : Span}
    (mem : kind ∈ TokenKind.twoCharOperators) (spelled : lexeme.toList = kind.spellingChars)
    (rest : List Char) : Heads ⟨kind, lexeme, span⟩ rest := by
  have isOperator := List.mem_append_left TokenKind.oneCharOperators mem
  have fixed : kind ∈ TokenKind.keywords ++ TokenKind.twoCharOperators ++
      TokenKind.oneCharOperators := by
    simp [mem]
  obtain ⟨c, cs, chars⟩ := List.exists_cons_of_ne_nil (Rule.spellingChars_ne_nil_of_mem fixed)
  have head : c ∈ kind.spellingChars.head? := by rw [chars]; rfl
  refine ⟨c, cs, spelled.trans chars, (Rule.head_of_operator kind isOperator c head).2.2.2.1, ?_⟩
  intro offset
  have begins : Rule.twoCharOperator.canStart c = true := by
    refine List.any_eq_true.2 ⟨kind, mem, ?_⟩
    rw [chars]
    exact beq_self_eq_true (some c)
  have scanned := scanOneOf_twoChar rest kind mem
  rw [chars, List.cons_append] at scanned
  rw [first?_operator isOperator head]
  exact first?_take begins (congrArg Except.ok scanned)

theorem heads_oneChar {kind : TokenKind} {lexeme : String} {span : Span} {rest : List Char}
    (mem : kind ∈ TokenKind.oneCharOperators) (spelled : lexeme.toList = kind.spellingChars)
    (stop : ∀ c ∈ kind.spellingChars.head?, Rule.twoCharOperator.canStart c = true →
      EndsOperator rest) : Heads ⟨kind, lexeme, span⟩ rest := by
  have isOperator := List.mem_append_right TokenKind.twoCharOperators mem
  have single : ∀ kind ∈ TokenKind.oneCharOperators, ∃ c, kind.spellingChars = [c] := by
    intro kind mem
    cases kind <;> first | exact ⟨_, rfl⟩ | exact absurd mem (by decide)
  obtain ⟨c, chars⟩ := single kind mem
  have head : c ∈ kind.spellingChars.head? := by rw [chars]; rfl
  refine ⟨c, [], spelled.trans chars, (Rule.head_of_operator kind isOperator c head).2.2.2.1, ?_⟩
  intro offset
  have begins : Rule.oneCharOperator.canStart c = true := by
    refine List.any_eq_true.2 ⟨kind, mem, ?_⟩
    rw [chars]
    exact beq_self_eq_true (some c)
  have scanned := scanOneOf_oneChar rest kind mem
  rw [chars] at scanned
  rw [first?_operator isOperator head, first?_skip]
  · exact first?_take begins (congrArg Except.ok scanned)
  · intro double
    exact congrArg Except.ok (scanOneOf_twoChar_eq_none (stop c head double) c)

/-- The marks that begin no operator of two characters are tokens whatever follows. -/
theorem heads_mark {kind : TokenKind}
    (mem : kind ∈ [TokenKind.minus, .leftParen, .rightParen, .comma]) (span : Span)
    (rest : List Char) : Heads ⟨kind, kind.spelling?.getD "", span⟩ rest := by
  have alone : ∀ c ∈ kind.spellingChars.head?, Rule.twoCharOperator.canStart c = false := by
    have all : [TokenKind.minus, .leftParen, .rightParen, .comma].all (fun kind =>
        kind.spellingChars.head?.all fun c => !Rule.twoCharOperator.canStart c) = true := by decide
    intro c head
    have first := List.all_eq_true.1 all kind mem
    rw [Option.mem_def.1 head] at first
    simpa using first
  have single : kind ∈ TokenKind.oneCharOperators := by
    obtain rfl | rfl | rfl | rfl := by simpa using mem
    all_goals decide
  exact heads_oneChar single rfl fun c head => skip_of_canStart (alone c head)

/-- A token of a kind with a fixed text, with that text. -/
theorem lexable_fixed {kind : TokenKind} {lexeme : String} {span : Span}
    (spelled : kind.spelling? = some lexeme) : Lexable ⟨kind, lexeme, span⟩ := by
  have chars : lexeme.toList = kind.spellingChars := by
    unfold TokenKind.spellingChars
    rw [spelled]
    rfl
  have sorts : kind ∈ TokenKind.keywords ∨ kind ∈ TokenKind.twoCharOperators ∨
      kind ∈ TokenKind.oneCharOperators := by
    cases kind <;> first | (cases spelled; done) | decide
  rcases sorts with mem | mem | mem
  · exact lexable_of_heads fun _ closed => heads_keyword mem chars closed.endsWord
  · exact lexable_of_heads fun rest _ => heads_twoChar mem chars rest
  · exact lexable_of_heads fun _ closed => heads_oneChar mem chars fun _ _ _ => closed.endsOperator

/-! ## Numbers -/

theorem scanNumber_true_append {rest : List Char} (stop : EndsNumeral rest) (digits : List Char)
    (each : ∀ c ∈ digits, c.isDigit = true) :
    Rule.scanNumber true (digits ++ rest) = (digits, rest) := by
  induction digits with
  | nil =>
    cases rest with
    | nil => rfl
    | cons c rest =>
      simp [Rule.scanNumber, (stop c rfl).1]
  | cons d digits ih =>
    have digit := each d List.mem_cons_self
    have more := ih fun c mem => each c (List.mem_cons_of_mem _ mem)
    simp [Rule.scanNumber, digit, more]

/-- A numeral ends where neither a digit nor a point comes. -/
theorem scanNumber_append_numeral {cs rest : List Char} (stop : EndsNumeral rest)
    (numeral : Decimal.IsNumeral cs) : Rule.scanNumber false (cs ++ rest) = (cs, rest) := by
  have through : ∀ (digits tail : List Char), (∀ c ∈ digits, c.isDigit = true) →
      Rule.scanNumber false (digits ++ tail) =
        (digits ++ (Rule.scanNumber false tail).1, (Rule.scanNumber false tail).2) := by
    intro digits tail each
    induction digits with
    | nil => rfl
    | cons d digits ih =>
      have digit := each d List.mem_cons_self
      have more := ih fun c mem => each c (List.mem_cons_of_mem _ mem)
      simp [Rule.scanNumber, digit, more]
  cases numeral with
  | whole each ne =>
    rw [through cs rest each]
    cases rest with
    | nil => simp [Rule.scanNumber]
    | cons c rest =>
      obtain ⟨notDigit, notPoint⟩ := stop c rfl
      simp [Rule.scanNumber, notDigit, notPoint]
  | @pointed whole places before after ne =>
    have point : Rule.scanNumber false ('.' :: (places ++ rest)) = ('.' :: places, rest) := by
      unfold Rule.scanNumber
      rw [if_neg (by decide), if_pos ⟨rfl, rfl⟩, scanNumber_true_append stop places after]
    rw [List.append_assoc, List.cons_append, through whole _ before, point]

theorem any_isDigit_of_numeral {cs : List Char} (numeral : Decimal.IsNumeral cs) :
    cs.any Char.isDigit = true := by
  cases numeral with
  | whole each ne =>
    obtain ⟨d, ds, rfl⟩ := List.exists_cons_of_ne_nil ne
    exact List.any_eq_true.2 ⟨d, List.mem_cons_self, each d List.mem_cons_self⟩
  | @pointed whole places before after ne =>
    obtain ⟨d, ds, eq⟩ := List.exists_cons_of_ne_nil ne
    have mem : d ∈ whole ++ places := eq ▸ List.mem_cons_self
    rw [List.any_append, List.any_cons]
    rcases List.mem_append.1 mem with mem | mem
    · rw [List.any_eq_true.2 ⟨d, mem, before d mem⟩, Bool.true_or]
    · rw [List.any_eq_true.2 ⟨d, mem, after d mem⟩, Bool.or_true, Bool.or_true]

theorem heads_numeral {lexeme : String} {span : Span} {rest : List Char}
    (numeral : Decimal.IsNumeral lexeme.toList) (stop : EndsNumeral rest) :
    Heads ⟨.number, lexeme, span⟩ rest := by
  obtain ⟨c, cs, chars, first⟩ := numeral.head
  have begins : Rule.number.canStart c = true := by
    rcases first with digit | rfl
    · show (c.isDigit || c == '.') = true
      rw [digit]
      rfl
    · rfl
  have noQuote : Rule.quotedText.canStart c = false := by
    refine beq_eq_false_iff_ne.2 ?_
    rintro rfl
    exact absurd first (by decide)
  have noBlank : Text.isBlank c = false := by
    refine Bool.eq_false_iff.2 fun blank => ?_
    obtain ⟨-, notDigit, notPoint, -⟩ := not_in_token_of_isBlank blank
    rcases first with digit | point
    · rw [digit] at notDigit
      cases notDigit
    · exact notPoint point
  obtain ⟨noTwo, noOne⟩ := Rule.canStart_operator_eq_false (.inr first)
  refine ⟨c, cs, chars, noBlank, ?_⟩
  intro offset
  unfold Rule.defaults
  rw [first?_skip (skip_of_canStart noQuote), first?_skip (skip_of_canStart noTwo),
    first?_skip (skip_of_canStart noOne)]
  refine first?_take begins ?_
  have scanned := scanNumber_append_numeral stop numeral
  have some := any_isDigit_of_numeral numeral
  rw [chars] at scanned some
  unfold Rule.recognize
  rw [← List.cons_append, scanned]
  simp only [some, if_true]

theorem lexable_numeral {lexeme : String} {span : Span}
    (numeral : Decimal.IsNumeral lexeme.toList) : Lexable ⟨.number, lexeme, span⟩ :=
  lexable_of_heads fun _ closed => heads_numeral numeral closed.endsNumeral

/-! ## Strings -/

theorem scanQuoted_escape {cs : List Char} (plain : IsPlainText cs) (start offset : Nat)
    (rest : List Char) :
    Rule.scanQuoted start offset (Quoted.escape cs ++ '"' :: rest) =
      .ok (Quoted.escape cs ++ ['"'], rest) := by
  induction cs generalizing offset with
  | nil => rfl
  | cons c cs ih =>
    have more := ih fun d mem => plain d (List.mem_cons_of_mem _ mem)
    obtain ⟨noEscape, noFeed, noReturn⟩ := plain c List.mem_cons_self
    unfold Quoted.escape
    by_cases quote : c = '"'
    · rw [if_pos quote, List.cons_append, List.cons_append, Rule.scanQuoted, more]
      rfl
    · rw [if_neg quote, List.cons_append, Rule.scanQuoted]
      · rw [if_neg noEscape, if_neg (by simp [noFeed, noReturn]), more]
        rfl
      · intro eq
        exact absurd eq quote
      · intro tail eq
        exact absurd eq noEscape

theorem heads_quoted {s : String} {span : Span} (plain : IsPlainText s.toList)
    (rest : List Char) : Heads ⟨.string, Quoted.quote s, span⟩ rest := by
  refine ⟨'"', Quoted.escape s.toList ++ ['"'], String.toList_ofList, by decide, ?_⟩
  intro offset
  refine first?_take rfl ?_
  unfold Rule.recognize
  dsimp only
  rw [List.append_assoc, List.singleton_append, scanQuoted_escape plain]
  rfl

theorem lexable_quoted {s : String} {span : Span} (plain : IsPlainText s.toList) :
    Lexable ⟨.string, Quoted.quote s, span⟩ :=
  lexable_of_heads fun rest _ => heads_quoted plain rest

theorem unescape_escape {cs : List Char} (plain : IsPlainText cs) :
    Quoted.unescape (Quoted.escape cs) = cs := by
  induction cs with
  | nil => rfl
  | cons c cs ih =>
    have more := ih fun d mem => plain d (List.mem_cons_of_mem _ mem)
    unfold Quoted.escape
    split
    next quote =>
      rw [quote]
      exact congrArg ('"' :: ·) more
    next => rw [Rule.unescape_cons_of_ne (plain c List.mem_cons_self).1, more]

/-- The literal of a plain text stands for it. -/
theorem unquote_quote {s : String} (plain : IsPlainText s.toList) :
    Quoted.unquote (Quoted.quote s) = s := by
  unfold Quoted.unquote Quoted.quote Quoted.quoteChars Quoted.unquoteChars
  rw [String.toList_ofList, Rule.inside_quotes, unescape_escape plain, String.ofList_toList]

/-! ## Tokens with blanks between them -/

/-- The first blanks are skipped, and the first token of the text is followed by the tokens of what
it leaves. -/
theorem list_eq (rules : List Rule) (offset : Nat) (cs : List Char) :
    list rules offset cs =
      match cs.dropWhile Text.isBlank with
      | [] => .ok [atEnd (offset + Text.byteLength cs)]
      | c :: rest =>
        let start := offset + Text.byteLength (cs.takeWhile Text.isBlank)
        match first? rules start c rest with
        | .error fault => .error fault
        | .ok none =>
          .error (.unexpectedCharacter c ⟨start, start + c.utf8Size⟩ (rules.map Rule.label))
        | .ok (some split) =>
          let stop := start + Text.byteLength split.lexeme
          (list rules stop split.rest).map
            (⟨split.kind, String.ofList split.lexeme, ⟨start, stop⟩⟩ :: ·) := by
  rw [list]
  split
  next blank => rw [blank]
  next c rest visible =>
    rw [visible]
    dsimp only
    split
    next failed => rw [failed]
    next failed => rw [failed]
    next split taken => rw [taken]

/-- A text of blanks has no token but that of its end. -/
theorem list_of_blank (offset : Nat) (blank : cs.dropWhile Text.isBlank = []) :
    list rules offset cs = .ok [atEnd (offset + Text.byteLength cs)] := by
  rw [list_eq, blank]

/-- The tokens of a text are its first token and the tokens of what that leaves. -/
theorem list_of_first? {rest : List Char} (visible : cs.dropWhile Text.isBlank = c :: rest)
    (taken : first? rules (offset + Text.byteLength (cs.takeWhile Text.isBlank)) c rest =
      .ok (some split)) :
    list rules offset cs =
      let start := offset + Text.byteLength (cs.takeWhile Text.isBlank)
      let stop := start + Text.byteLength split.lexeme
      (list rules stop split.rest).map
        (⟨split.kind, String.ofList split.lexeme, ⟨start, stop⟩⟩ :: ·) := by
  rw [list_eq, visible]
  dsimp only
  rw [taken]

/-- A token at the head of a text, after blanks, is followed by the tokens of what follows it. -/
theorem list_of_heads {t : Token} {gap rest : List Char} (heads : Heads t rest)
    (blank : ∀ c ∈ gap, Text.isBlank c = true) (offset : Nat) :
    list Rule.defaults offset (gap ++ (t.lexeme.toList ++ rest)) =
      let start := offset + Text.byteLength gap
      let stop := start + Text.byteLength t.lexeme.toList
      (list Rule.defaults stop rest).map (⟨t.kind, t.lexeme, ⟨start, stop⟩⟩ :: ·) := by
  obtain ⟨c, cs, chars, visible, first⟩ := heads
  have noBlank : ¬ Text.isBlank c = true := by simp [visible]
  have visibles : (gap ++ (t.lexeme.toList ++ rest)).dropWhile Text.isBlank =
      c :: (cs ++ rest) := by
    rw [List.dropWhile_append_of_pos blank, chars, List.cons_append,
      List.dropWhile_cons_of_neg noBlank]
  have blanks : (gap ++ (t.lexeme.toList ++ rest)).takeWhile Text.isBlank = gap := by
    rw [List.takeWhile_append_of_pos blank, chars, List.cons_append,
      List.takeWhile_cons_of_neg noBlank, List.append_nil]
  rw [list_of_first? visibles (first _), blanks, ← chars, String.ofList_toList]

theorem list_of_heads_ok {t : Token} {gap rest : List Char} {tail : List Token}
    (heads : Heads t rest) (blank : ∀ c ∈ gap, Text.isBlank c = true) (offset : Nat)
    (after : list Rule.defaults
      (offset + Text.byteLength gap + Text.byteLength t.lexeme.toList) rest = .ok tail) :
    list Rule.defaults offset (gap ++ (t.lexeme.toList ++ rest)) =
      .ok (⟨t.kind, t.lexeme, ⟨offset + Text.byteLength gap,
        offset + Text.byteLength gap + Text.byteLength t.lexeme.toList⟩⟩ :: tail) := by
  rw [list_of_heads heads blank]
  exact congrArg (Except.map _) after

theorem list_of_heads_next {t : Token} {rest : List Char} {tail : List Token} (heads : Heads t rest)
    (offset : Nat)
    (after : list Rule.defaults (offset + Text.byteLength t.lexeme.toList) rest = .ok tail) :
    list Rule.defaults offset (t.lexeme.toList ++ rest) =
      .ok (⟨t.kind, t.lexeme, ⟨offset, offset + Text.byteLength t.lexeme.toList⟩⟩ :: tail) :=
  @list_of_heads_ok t [] rest tail heads nofun offset after

/-- The text is the lexemes of the tokens in their order, after each the end or a blank, and only
blanks besides. -/
inductive Joined : List Token → List Char → Prop where
  | ending {gap : List Char} (blank : ∀ c ∈ gap, Text.isBlank c = true) : Joined [] gap
  | token {t : Token} {ts : List Token} {gap rest : List Char}
      (blank : ∀ c ∈ gap, Text.isBlank c = true) (closed : Closed rest) (later : Joined ts rest) :
      Joined (t :: ts) (gap ++ (t.lexeme.toList ++ rest))

/-- Lexable tokens that are joined are the tokens of that text, spans aside. -/
theorem list_joined {ts : List Token} (lexable : ∀ t ∈ ts, Lexable t) (offset : Nat)
    {cs : List Char} (joined : Joined ts cs) :
    ∃ out, list Rule.defaults offset cs = .ok out ∧
      out.map unspanned = ts.map unspanned ++ [atEnd 0] := by
  induction joined generalizing offset with
  | ending blank => exact ⟨_, list_of_blank offset (List.dropWhile_eq_nil_iff.2 blank), rfl⟩
  | @token t ts gap rest blank closed later ih =>
    have heads := (lexable t List.mem_cons_self).heads closed
    rw [list_of_heads heads blank]
    obtain ⟨out, made, same⟩ := ih (fun t mem => lexable t (List.mem_cons_of_mem _ mem)) _
    refine ⟨_, congrArg (Except.map _) made, ?_⟩
    rw [List.map_cons, List.map_cons, same]
    rfl

/-- The tokens with a blank after each. -/
def spaced (ts : List Token) : List Char :=
  ts.flatMap fun t => t.lexeme.toList ++ [' ']

theorem joined_spaced (ts : List Token) {gap : List Char}
    (blank : ∀ c ∈ gap, Text.isBlank c = true) : Joined ts (gap ++ spaced ts) := by
  induction ts generalizing gap with
  | nil => simpa [spaced] using Joined.ending blank
  | cons t ts ih =>
    have closed : Closed (' ' :: spaced ts) := by
      intro c head
      cases head
      rfl
    have space : ∀ c ∈ [' '], Text.isBlank c = true := List.all_eq_true.1 rfl
    have written : spaced (t :: ts) = t.lexeme.toList ++ ' ' :: spaced ts := by
      simp [spaced]
    rw [written]
    exact .token blank closed (ih space)

/-- Lexable tokens with blanks between them are the tokens of that text, spans aside. -/
theorem tokenize_spaced {ts : List Token} (lexable : ∀ t ∈ ts, Lexable t) :
    ∃ out, tokenize (String.ofList (spaced ts)) = .ok out ∧
      out.map unspanned = ts.map unspanned ++ [atEnd 0] := by
  unfold tokenize tokenizeWith
  rw [String.toList_ofList]
  exact list_joined lexable 0 (joined_spaced ts fun c mem => absurd mem List.not_mem_nil)

end Token

end Scriptlet
