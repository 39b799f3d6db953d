import Scriptlet.Proofs.Printing.Arguments

/-
  Reading undoes writing.
  Each written expression and statement is read back without its spans, by induction on the tree,
  whatever follows it. Main statement: the text of a program that was read from a source is read as
  the same program, spans aside (`parse_render`).
-/

namespace Scriptlet.Grammar

variable {style : Numerals} {ts rest : List Token} {e : Expr} {args : List Expr}

/-! ## Written expressions -/

theorem literal?_token (style : Numerals) {value : Literal} (h : value.Writable) :
    literal? (value.token style) = .ok value := by
  cases value with
  | number x =>
    unfold literal? Literal.token Binary.read?
    dsimp only
    rw [String.toList_ofList, style.reads x h]
  | string s =>
    show Except.ok (Literal.string (Quoted.unquote (Quoted.quote s))) = _
    rw [Token.unquote_quote h]
  | bool b => cases b <;> rfl
  | null => rfl

theorem printed_literal (style : Numerals) {value : Literal} {span : Span} (h : value.Writable) :
    Printed style (.literal value span) := by
  refine printed_of_readsUnary ?_
  have zero : (value.token style).span = .zero := by
    cases value with
    | bool b => cases b <;> rfl
    | _ => rfl
  have reads := readsUnary_literal (literal?_token style h)
  rw [zero] at reads
  rw [Expr.tokens]
  exact reads

theorem printed_variable (style : Numerals) (name : String) (span : Span) :
    Printed style (.variable name span) := by
  refine printed_of_readsUnary ?_
  intro rest ends
  have noParams : params? rest = none := by
    refine Option.eq_none_iff_forall_ne_some.2 fun ⟨names, mid⟩ found => ?_
    exact ends.1 (params?_eq_some_iff.1 found).1
  rw [Expr.tokens, List.singleton_append]
  refine readAll_unary_name rfl (named_ok_iff.2 (.inr (.inr ⟨noParams, ends.1, ?_, rfl⟩)))
  rfl

/-- Written expressions with commas between them are read as arguments. -/
theorem arguments_tokens : ∀ args : List Expr, (∀ x ∈ args, Printed style x) →
    Arguments (argTokens style args) (unspannedArgs args)
  | [], _ => .empty
  | [e], printed =>
    .last (opens_tokens style e) ((printed e List.mem_cons_self).operation _ (Nat.zero_le _))
  | e :: next :: args, printed => by
    have first := (printed e List.mem_cons_self).operation .disjunction (Nat.zero_le _)
    have later := arguments_tokens (next :: args) fun x mem =>
      printed x (List.mem_cons_of_mem _ mem)
    rw [argTokens]
    exact .more (opens_tokens style e) first rfl later

theorem printed_call {name : String} {span : Span} (printed : ∀ e ∈ args, Printed style e) :
    Printed style (.call name args span) := by
  refine printed_of_readsUnary ?_
  have reads : ReadsUnary (.name name :: TokenKind.leftParen.fixed :: (argTokens style args ++
      [TokenKind.rightParen.fixed])) _ :=
    readsUnary_call rfl rfl rfl (arguments_tokens args printed)
  rw [Expr.tokens, Expr.unspanned]
  exact reads

/-! ## Written statements -/

/-- The statement is read from its tokens, whatever follows. -/
def ReadsStatement (style : Numerals) (s : Stmt) : Prop :=
  ∀ rest, readAll .statement (s.tokens style ++ rest) = .ok (s.unspanned, rest)

variable {body : List Stmt} {s : Stmt}

/-- A statement that is read up to its semicolon is read with it. -/
theorem readAll_statement_semicolon {rest : List Token}
    (h : bareStatement readAll ts = .ok (s, TokenKind.semicolon.fixed :: rest)) :
    readAll .statement ts = .ok (s, rest) :=
  (readAll_statement _).trans (statement_ok_iff.2 ⟨_, h, rfl⟩)

/-- An expression that is not taken for another statement. -/
theorem bareStatement_expression (h : Opens ts) (more : List Token)
    (mark : nextKind more ≠ .equals) :
    bareStatement readAll (ts ++ more) = expressionStatement readAll (ts ++ more) := by
  have other : ∀ kind ∈ [TokenKind.varWord, .ifWord, .whileWord, .returnWord, .breakWord,
      .continueWord], nextKind (ts ++ more) ≠ kind := by
    intro kind mem
    refine h.nextKind_ne more fun begins => ?_
    obtain rfl | rfl | rfl | rfl | rfl | rfl := by simpa using mem
    all_goals exact absurd begins (by decide)
  have second : nextKind (ts ++ more) = .identifier → nextKind (ts ++ more).tail ≠ .equals := by
    obtain ⟨t, others, rfl, -, second⟩ := h
    intro name equals
    rcases second name with rfl | ⟨u, tail, rfl, goesOn⟩
    · exact mark equals
    · have equals : u.kind = .equals := equals
      exact goesOn (by simp [equals])
  obtain ⟨k, -⟩ | ⟨k, -⟩ | ⟨k, -⟩ | ⟨k, -⟩ | ⟨k, -⟩ | ⟨k, -⟩ | ⟨name, equals, -⟩ | ⟨-, eq⟩ :=
    bareStatement_forms (ts ++ more)
  · exact absurd k (other _ (by decide))
  · exact absurd k (other _ (by decide))
  · exact absurd k (other _ (by decide))
  · exact absurd k (other _ (by decide))
  · exact absurd k (other _ (by decide))
  · exact absurd k (other _ (by decide))
  · exact absurd equals (second name)
  · exact eq readAll

/-- No statement begins where statements end. -/
theorem not_closesBody_tokens (style : Numerals) (s : Stmt) (more : List Token) :
    ¬ ClosesBody (nextKind (s.tokens style ++ more)) := by
  have fixed : ∀ kind : TokenKind, kind ∈ [TokenKind.varWord, .identifier, .ifWord, .whileWord,
      .returnWord, .breakWord, .continueWord] → ¬ ClosesBody kind := by decide
  have at_ : ∀ kind : TokenKind, nextKind (s.tokens style ++ more) = kind →
      kind ∈ [TokenKind.varWord, .identifier, .ifWord, .whileWord, .returnWord, .breakWord,
        .continueWord] → ¬ ClosesBody (nextKind (s.tokens style ++ more)) := by
    intro kind eq mem
    rw [eq]
    exact fixed kind mem
  cases s with
  | «variable» name value span => exact at_ .varWord (by rw [Stmt.tokens]; rfl) (by decide)
  | assign name value span => exact at_ .identifier (by rw [Stmt.tokens]; rfl) (by decide)
  | branch test thenBody elseBody span =>
    cases elseBody <;> exact at_ .ifWord (by rw [Stmt.tokens]; rfl) (by decide)
  | loop test body span => exact at_ .whileWord (by rw [Stmt.tokens]; rfl) (by decide)
  | result value span =>
    cases value <;> exact at_ .returnWord (by rw [Stmt.tokens]; rfl) (by decide)
  | jump jump span =>
    cases jump with
    | breakLoop => exact at_ .breakWord (by rw [Stmt.tokens]; rfl) (by decide)
    | continueLoop => exact at_ .continueWord (by rw [Stmt.tokens]; rfl) (by decide)
  | expr value span =>
    rw [Stmt.tokens, List.append_assoc]
    rintro (brace | last)
    · exact (opens_tokens style value).nextKind_ne _ (by decide) brace
    · exact (opens_tokens style value).nextKind_ne _ (by decide) last

/-- Written statements are read up to the brace that closes them. -/
theorem readAll_written_body (rest : List Token) : ∀ body : List Stmt,
    (∀ s ∈ body, ReadsStatement style s) →
    readAll .body (bodyTokens style body ++ TokenKind.rightBrace.fixed :: rest) =
      .ok (unspannedBody body, TokenKind.rightBrace.fixed :: rest)
  | [], _ => (readAll_body _).trans (body_ok_iff.2 (.inl ⟨.inl rfl, rfl, rfl⟩))
  | s :: body, reads => by
    have others := readAll_written_body rest body fun x mem => reads x (List.mem_cons_of_mem _ mem)
    have first := reads s List.mem_cons_self
      (bodyTokens style body ++ TokenKind.rightBrace.fixed :: rest)
    rw [bodyTokens, List.append_assoc]
    refine (readAll_body _).trans (body_ok_iff.2 (.inr ⟨?_, _, _, _, first, others, rfl⟩))
    exact not_closesBody_tokens style s _

theorem braces_written (rest : List Token) (reads : ∀ s ∈ body, ReadsStatement style s) :
    braces readAll (TokenKind.leftBrace.fixed :: (bodyTokens style body ++
      TokenKind.rightBrace.fixed :: rest)) = .ok ((unspannedBody body, .zero), rest) :=
  braces_ok_iff.2 ⟨_, readAll_written_body rest body reads, rfl, rfl, rfl⟩

theorem readAll_written_block (rest : List Token) (reads : ∀ s ∈ body, ReadsStatement style s) :
    readAll .block (TokenKind.leftBrace.fixed :: (bodyTokens style body ++
      TokenKind.rightBrace.fixed :: rest)) = .ok ((unspannedBody body, .zero), rest) :=
  (readAll_block _).trans (block_ok_iff.2 (.inl ⟨rfl, braces_written rest reads⟩))

theorem condition_written (h : Printed style e) (wanted : Wanted) (rest : List Token) :
    condition readAll wanted (TokenKind.leftParen.fixed :: (e.tokens style ++
      TokenKind.rightParen.fixed :: rest)) = .ok (e.unspanned, rest) :=
  condition_ok_iff.2 ⟨rfl, _, h.reads_before .rightParen (by decide) rest, rfl, rfl⟩

/-- A written declaration is read as one, and is marked for what its body does. -/
theorem printed_function {name : String} {params : List String} {hasReturn : Bool}
    {span span' : Span} (returns : hasReturn = anyReturns body)
    (reads : ∀ s ∈ body, ReadsStatement style s) :
    Printed style (.function ⟨name, params, body, hasReturn, span⟩ span') := by
  refine printed_of_readsUnary ?_
  intro rest _
  have made := braces_written rest reads
  simp only [Expr.tokens, Declaration.tokens, List.cons_append, List.append_assoc, List.nil_append]
  refine readAll_unary_name rfl (named_ok_iff.2 (.inl ⟨params, _, params?_params params _, ?_⟩))
  refine declaration_ok_iff.2 ⟨_, _, made, ?_⟩
  rw [Expr.unspanned, Declaration.unspanned, returns, ← anyReturns_unspannedBody]
  rfl

theorem readsStatement_variable {name : String} {span : Span} (h : Printed style e) :
    ReadsStatement style (.variable name e span) := by
  intro rest
  have value := h.reads_before .semicolon (by decide) rest
  simp only [Stmt.tokens, List.cons_append, List.append_assoc, List.nil_append]
  refine readAll_statement_semicolon (newVariable_ok_iff.2 ⟨rfl, rfl, e.unspanned, value, ?_⟩)
  rw [e.span_unspanned, Stmt.unspanned]
  rfl

theorem readsStatement_assign {name : String} {span : Span} (h : Printed style e) :
    ReadsStatement style (.assign name e span) := by
  intro rest
  have value := h.reads_before .semicolon (by decide) rest
  simp only [Stmt.tokens, List.cons_append, List.append_assoc, List.nil_append]
  refine readAll_statement_semicolon (assignment_ok_iff.2 ⟨e.unspanned, value, ?_⟩)
  rw [e.span_unspanned, Stmt.unspanned]
  rfl

theorem readsStatement_branch {thenBody : List Stmt} {span : Span} (h : Printed style e)
    (reads : ∀ s ∈ thenBody, ReadsStatement style s) :
    ReadsStatement style (.branch e thenBody none span) := by
  intro rest
  have thenMade := readAll_written_block (TokenKind.semicolon.fixed :: rest) reads
  have test := condition_written h .ifParen (TokenKind.leftBrace.fixed ::
    (bodyTokens style thenBody ++ TokenKind.rightBrace.fixed :: TokenKind.semicolon.fixed :: rest))
  simp only [Stmt.tokens, List.cons_append, List.append_assoc, List.nil_append]
  refine readAll_statement_semicolon (branch_ok_iff.2 ⟨_, _, _, _, _, test, thenMade, .inl ?_⟩)
  refine ⟨(fun more => by cases more), rfl, ?_⟩
  rw [Stmt.unspanned]
  rfl

theorem readsStatement_branch_else {thenBody elseBody : List Stmt} {span : Span}
    (h : Printed style e) (reads : ∀ s ∈ thenBody, ReadsStatement style s)
    (reads' : ∀ s ∈ elseBody, ReadsStatement style s) :
    ReadsStatement style (.branch e thenBody (some elseBody) span) := by
  intro rest
  have elseMade := readAll_written_block (TokenKind.semicolon.fixed :: rest) reads'
  have thenMade := readAll_written_block (TokenKind.elseWord.fixed :: TokenKind.leftBrace.fixed ::
    (bodyTokens style elseBody ++ TokenKind.rightBrace.fixed :: TokenKind.semicolon.fixed :: rest))
    reads
  have test := condition_written h .ifParen (TokenKind.leftBrace.fixed ::
    (bodyTokens style thenBody ++ TokenKind.rightBrace.fixed :: TokenKind.elseWord.fixed ::
      TokenKind.leftBrace.fixed :: (bodyTokens style elseBody ++ TokenKind.rightBrace.fixed ::
        TokenKind.semicolon.fixed :: rest)))
  simp only [Stmt.tokens, List.cons_append, List.append_assoc, List.nil_append]
  refine readAll_statement_semicolon (branch_ok_iff.2 ⟨_, _, _, _, _, test, thenMade, .inr ?_⟩)
  refine ⟨rfl, _, _, elseMade, ?_⟩
  rw [Stmt.unspanned]
  rfl

theorem readsStatement_loop {span : Span} (h : Printed style e)
    (reads : ∀ s ∈ body, ReadsStatement style s) : ReadsStatement style (.loop e body span) := by
  intro rest
  have made := readAll_written_block (TokenKind.semicolon.fixed :: rest) reads
  have test := condition_written h .whileParen (TokenKind.leftBrace.fixed ::
    (bodyTokens style body ++ TokenKind.rightBrace.fixed :: TokenKind.semicolon.fixed :: rest))
  simp only [Stmt.tokens, List.cons_append, List.append_assoc, List.nil_append]
  refine readAll_statement_semicolon (loop_ok_iff.2 ⟨_, _, _, _, test, made, ?_⟩)
  rw [Stmt.unspanned]
  rfl

theorem readsStatement_result (style : Numerals) (span : Span) :
    ReadsStatement style (.result none span) := by
  intro rest
  rw [Stmt.tokens]
  refine readAll_statement_semicolon (result_ok_iff.2 (.inl ⟨rfl, ?_, rfl⟩))
  rw [Stmt.unspanned]
  rfl

theorem readsStatement_result_value {span : Span} (h : Printed style e) :
    ReadsStatement style (.result (some e) span) := by
  intro rest
  have value := h.reads_before .semicolon (by decide) rest
  have begins := opens_tokens style e
  have goesOn : endsResult (nextKind (e.tokens style ++ TokenKind.semicolon.fixed :: rest)) =
      false := by
    unfold endsResult
    rw [beq_eq_false_iff_ne.2 (begins.nextKind_ne _ (by decide)),
      beq_eq_false_iff_ne.2 (begins.nextKind_ne _ (by decide)),
      beq_eq_false_iff_ne.2 (begins.nextKind_ne _ (by decide))]
    rfl
  simp only [Stmt.tokens, List.cons_append, List.append_assoc, List.nil_append]
  refine readAll_statement_semicolon (result_ok_iff.2 (.inr ⟨goesOn, _, value, ?_⟩))
  rw [e.span_unspanned, Stmt.unspanned]
  rfl

theorem readsStatement_jump (style : Numerals) (jump : Jump) (span : Span) :
    ReadsStatement style (.jump jump span) := by
  intro rest
  cases jump <;> exact readAll_statement_semicolon rfl

theorem readsStatement_expr {span : Span} (h : Printed style e) :
    ReadsStatement style (.expr e span) := by
  intro rest
  have value := h.reads_before .semicolon (by decide) rest
  rw [Stmt.tokens, List.append_assoc, List.singleton_append]
  refine readAll_statement_semicolon ?_
  rw [bareStatement_expression (opens_tokens style e) _ (fun equals => by cases equals)]
  refine expressionStatement_ok_iff.2 ⟨_, value, ?_⟩
  rw [e.span_unspanned, Stmt.unspanned]

/-! ## Whole trees -/

mutual

theorem printed_of_everywhere (style : Numerals) :
    ∀ e : Expr, e.Everywhere writable → Printed style e
  | .literal _ _, h => printed_literal style h
  | .variable name span, _ => printed_variable style name span
  | .binary _ left right _, h =>
    printed_binary (printed_of_everywhere style left h.2.1)
      (printed_of_everywhere style right h.2.2) h.1
  | .unary _ operand _, h => printed_unary (printed_of_everywhere style operand h.2)
  | .call _ args _, h => printed_call (args_printed style args h.2)
  | .function ⟨_, _, body, _, _⟩ _, h => printed_function h.1.2.2 (body_reads style body h.2)

theorem args_printed (style : Numerals) :
    ∀ args : List Expr, argsEverywhere writable args → ∀ e ∈ args, Printed style e
  | [], _ => fun _ mem => by cases mem
  | e :: args, h =>
    List.forall_mem_cons.2 ⟨printed_of_everywhere style e h.1, args_printed style args h.2⟩

theorem statement_reads (style : Numerals) :
    ∀ s : Stmt, s.Everywhere writable → ReadsStatement style s
  | .variable _ value _, h => readsStatement_variable (printed_of_everywhere style value h.2)
  | .assign _ value _, h => readsStatement_assign (printed_of_everywhere style value h.2)
  | .branch test thenBody none _, h =>
    readsStatement_branch (printed_of_everywhere style test h.2.1)
      (body_reads style thenBody h.2.2)
  | .branch test thenBody (some elseBody) _, h =>
    readsStatement_branch_else (printed_of_everywhere style test h.2.1)
      (body_reads style thenBody h.2.2.1) (body_reads style elseBody h.2.2.2)
  | .loop test body _, h =>
    readsStatement_loop (printed_of_everywhere style test h.2.1) (body_reads style body h.2.2)
  | .result none span, _ => readsStatement_result style span
  | .result (some value) _, h => readsStatement_result_value (printed_of_everywhere style value h.2)
  | .jump jump span, _ => readsStatement_jump style jump span
  | .expr value _, h => readsStatement_expr (printed_of_everywhere style value h.2)

/-- Every statement of a body that can be written is read back. -/
theorem body_reads (style : Numerals) :
    ∀ body : List Stmt, bodyEverywhere writable body → ∀ s ∈ body, ReadsStatement style s
  | [], _ => fun _ mem => by cases mem
  | s :: body, h => List.forall_mem_cons.2 ⟨statement_reads style s h.1, body_reads style body h.2⟩

end

/-- Written statements are read up to the end of the input. -/
theorem readAll_written_program : ∀ body : List Stmt, (∀ s ∈ body, ReadsStatement style s) →
    readAll .program (bodyTokens style body ++ [.atEnd 0]) = .ok (unspannedBody body, [.atEnd 0])
  | [], _ => (readAll_program _).trans (program_ok_iff.2 (.inl ⟨rfl, rfl, rfl⟩))
  | s :: body, reads => by
    have others := readAll_written_program body fun x mem => reads x (List.mem_cons_of_mem _ mem)
    have first := reads s List.mem_cons_self (bodyTokens style body ++ [.atEnd 0])
    rw [bodyTokens, List.append_assoc]
    refine (readAll_program _).trans (program_ok_iff.2 (.inr ⟨?_, _, _, _, first, others, rfl⟩))
    intro last
    exact not_closesBody_tokens style s _ (.inr last)

end Scriptlet.Grammar

namespace Scriptlet.Program

open Grammar (readAll)

/-- A program that was read from a source can be written. -/
theorem writable_of_parse {source : String} {p : Program} (h : parse source = .ok p) :
    bodyEverywhere writable p.statements := by
  have sourced := fromTokens_of_parse h fun _ tokens => Token.wellLexed_of_tokenize tokens
  exact bodyEverywhere_mono implies_writable _ sourced

/-- The text of a program that was read from a source is read as the same program, spans aside. -/
theorem parse_render (style : Numerals) {source : String} {p : Program} (h : parse source = .ok p) :
    ∃ q, parse (p.render style) = .ok q ∧ q.unspanned = p.unspanned := by
  have written := writable_of_parse h
  obtain ⟨out, tokens, same⟩ := tokenize_render style written
  have read := Grammar.readAll_written_program _ (Grammar.body_reads style p.statements written)
  have blind : readAll .program (out.map Token.unspanned) =
      Grammar.erased unspannedBody (readAll .program out) := Grammar.readAll_unspanned .program out
  rw [same, read] at blind
  cases found : readAll .program out with
  | error fault =>
    rw [found] at blind
    cases blind
  | ok pair =>
    obtain ⟨statements, rest⟩ := pair
    rw [found] at blind
    refine ⟨⟨statements⟩, parse_ok_iff.2 ⟨out, rest, tokens, found⟩, ?_⟩
    have bodies : unspannedBody p.statements = unspannedBody statements :=
      congrArg Prod.fst (Except.ok.inj blind)
    exact congrArg Program.mk bodies.symm

theorem parse_render_declaration :
    ∃ p q, parse "f(a, b) \x7b if (a >= b) return -a * (b + 1) \x7d f(1, .5) == \"x\"" = .ok p ∧
      parse (p.render .shortest) = .ok q ∧ q.unspanned = p.unspanned := by
  obtain ⟨p, made⟩ := exists_of_isOk
    (r := parse "f(a, b) \x7b if (a >= b) return -a * (b + 1) \x7d f(1, .5) == \"x\"")
    (by decide +kernel)
  obtain ⟨q, read, same⟩ := parse_render .shortest made
  exact ⟨p, q, made, read, same⟩

/-- Only the parentheses that group against the levels are written. -/
example : ((parse "((1) - (2 - 3)) * 4").map (render .shortest)).toOption =
    some "( 1 - ( 2 - 3 ) ) * 4 ; " := by decide +kernel

end Scriptlet.Program
