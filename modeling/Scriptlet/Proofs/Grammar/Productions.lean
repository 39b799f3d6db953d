import Scriptlet.Program.Grammar

/-
  What each production accepts.
  A production accepts a list of tokens exactly if the phrases inside it are accepted one after the
  other; there is one equivalence for each production, in terms of an arbitrary reader of the
  phrases inside. Whatever is said of accepted phrases is proved from these equivalences, and no
  production is opened again.
-/

namespace Scriptlet.Grammar

variable {read : Readers} {ts rest : List Token} {level : Level} {e left : Expr} {s : Stmt}

/-- Two computations in a row end well exactly if both do. -/
theorem bind_ok_iff {ε α β : Type} {m : Except ε α} {f : α → Except ε β} {b : β} :
    (m >>= f) = .ok b ↔ ∃ a, m = .ok a ∧ f a = .ok b := by
  cases m <;> simp [bind, Except.bind]

theorem guard_of_holds {p : Prop} [Decidable p] (h : p) : (guard p : Option Unit) = some () :=
  if_pos h

theorem guard_of_fails {p : Prop} [Decidable p] (h : ¬ p) : (guard p : Option Unit) = none :=
  if_neg h

/-- A guarded computation yields something exactly if the guard holds and the rest yields it. -/
theorem guard_bind_eq_some_iff {p : Prop} [Decidable p] {β : Type} {f : Unit → Option β} {b : β} :
    (guard p : Option Unit).bind f = some b ↔ p ∧ f () = some b := by
  by_cases h : p
  · rw [guard_of_holds h]
    exact ⟨fun made => ⟨h, made⟩, fun made => made.2⟩
  · rw [guard_of_fails h]
    exact ⟨nofun, fun made => absurd made.1 h⟩

/-! ## Single tokens -/

/-- The next token is one of the tokens if it does not close the input. -/
theorem exists_cons_of_nextKind {kind : TokenKind} (h : nextKind ts = kind)
    (ne : kind ≠ .endOfInput) : ∃ t more, ts = t :: more ∧ t.kind = kind := by
  cases ts with
  | nil =>
    have : TokenKind.endOfInput = kind := h
    exact absurd this.symm ne
  | cons t more => exact ⟨t, more, rfl, h⟩

theorem ne_endOfInput_of_unaryOp? {kind : TokenKind} {op : UnaryOp} (h : unaryOp? kind = some op) :
    kind ≠ .endOfInput := by
  rintro rfl
  cases h

theorem ne_endOfInput_of_operator? {kind : TokenKind} {op : BinaryOp}
    (h : level.operator? kind = some op) : kind ≠ .endOfInput := by
  rintro rfl
  cases level <;> cases h

theorem expect_ok_iff {kind : TokenKind} {wanted : Wanted} {t : Token} :
    expect kind wanted ts = .ok (t, rest) ↔ nextKind ts = kind ∧ t = next ts ∧ rest = ts.tail := by
  unfold expect
  split
  next h => simp [h, eq_comm]
  next h => simp [h]

/-! ## Expressions -/

/-- The operands of a comparison fit together: they are not of two known types that differ. -/
def Comparable (op : BinaryOp) (left right : Expr) : Prop :=
  op.isEquality = true → left.staticType ≠ .dynamic → right.staticType ≠ .dynamic →
    left.staticType = right.staticType

theorem combine_ok_iff {op : BinaryOp} {right whole : Expr} :
    combine op left right = .ok whole ↔
      Comparable op left right ∧
        whole = .binary op left right (left.span.through right.span) := by
  unfold combine Comparable
  split
  next h =>
    obtain ⟨h1, h2, h3, h4⟩ := h
    simp [h1, h2, h3, h4]
  next h =>
    have fits : op.isEquality = true → left.staticType ≠ .dynamic → right.staticType ≠ .dynamic →
        left.staticType = right.staticType := by
      intro h1 h2 h3
      exact Decidable.byContradiction fun h4 => h ⟨h1, h2, h3, h4⟩
    constructor
    · intro made
      exact ⟨fits, (Except.ok.inj made).symm⟩
    · rintro ⟨-, rfl⟩
      rfl

theorem operation_ok_iff :
    operation read level ts = .ok (e, rest) ↔
      ∃ left mid, operand read level ts = .ok (left, mid) ∧
        read (.chain level left) mid = .ok (e, rest) := by
  simp only [operation, bind_ok_iff, Prod.exists]

theorem chain_ok_iff :
    chain read level left ts = .ok (e, rest) ↔
      (level.operator? (nextKind ts) = none ∧ e = left ∧ rest = ts) ∨
        ∃ op right mid, level.operator? (nextKind ts) = some op ∧
          operand read level ts.tail = .ok (right, mid) ∧ Comparable op left right ∧
          read (.chain level (.binary op left right (left.span.through right.span))) mid =
            .ok (e, rest) := by
  unfold chain
  split
  next none => simp [none, eq_comm]
  next op some =>
    simp only [some, bind_ok_iff, Prod.exists, combine_ok_iff]
    constructor
    · rintro ⟨right, mid, hr, whole, ⟨fits, rfl⟩, hc⟩
      exact .inr ⟨op, right, mid, rfl, hr, fits, hc⟩
    · rintro (⟨h, -⟩ | ⟨op', right, mid, h, hr, fits, hc⟩)
      · cases h
      · cases h
        exact ⟨right, mid, hr, _, ⟨fits, rfl⟩, hc⟩

theorem moreParams?_eq_some_iff {names : List String} :
    moreParams? ts = some (names, rest) ↔ ∃ name mark more, ts = name :: mark :: more ∧
      name.kind = .identifier ∧
        ((mark.kind = .rightParen ∧ names = [name.lexeme] ∧ rest = more) ∨
          (mark.kind = .comma ∧ ∃ names', moreParams? more = some (names', rest) ∧
            names = name.lexeme :: names')) := by
  constructor
  · intro listed
    unfold moreParams? at listed
    split at listed
    next name mark more =>
      split at listed
      next => cases listed
      next begins =>
        refine ⟨name, mark, more, rfl, Decidable.not_not.1 begins, ?_⟩
        split at listed
        next close =>
          cases listed
          exact .inl ⟨close, rfl, rfl⟩
        next =>
          split at listed
          next comma =>
            obtain ⟨⟨names', rest'⟩, listed, made⟩ := Option.map_eq_some_iff.1 listed
            cases made
            exact .inr ⟨comma, names', listed, rfl⟩
          next => cases listed
    next => cases listed
  · rintro ⟨name, mark, more, rfl, begins, ⟨close, rfl, rfl⟩ | ⟨comma, names', listed, rfl⟩⟩
    · unfold moreParams?
      rw [if_neg (not_not_intro begins), if_pos close]
    · have close : mark.kind ≠ .rightParen := fun close => by cases comma.symm.trans close
      unfold moreParams?
      rw [if_neg (not_not_intro begins), if_neg close, if_pos comma, listed]
      rfl

theorem params?_eq_some_iff {ts rest : List Token} {names : List String} :
    params? ts = some (names, rest) ↔
      nextKind ts = .leftParen ∧ nextKind rest = .leftBrace ∧
        ((nextKind ts.tail = .rightParen ∧ names = [] ∧ rest = ts.tail.tail) ∨
          (nextKind ts.tail ≠ .rightParen ∧ moreParams? ts.tail = some (names, rest))) := by
  unfold params?
  rw [Option.bind_eq_bind, guard_bind_eq_some_iff]
  refine and_congr_right fun _ => ?_
  by_cases h : nextKind ts.tail = .rightParen
  · rw [if_pos h, Option.bind_eq_bind, Option.bind_some]
    dsimp only
    rw [guard_bind_eq_some_iff]
    simp only [h, Option.some.injEq, Prod.mk.injEq, true_and, ne_eq, not_true_eq_false, false_and,
      or_false]
    constructor
    · rintro ⟨brace, rfl, rfl⟩
      exact ⟨brace, rfl, rfl⟩
    · rintro ⟨brace, rfl, rfl⟩
      exact ⟨brace, rfl, rfl⟩
  · rw [if_neg h, Option.bind_eq_bind, Option.bind_eq_some_iff]
    constructor
    · rintro ⟨⟨names', mid⟩, hm, made⟩
      obtain ⟨brace, same⟩ := guard_bind_eq_some_iff.1 made
      cases same
      exact ⟨brace, .inr ⟨h, hm⟩⟩
    · rintro ⟨brace, ⟨close, -⟩ | ⟨-, hm⟩⟩
      · exact absurd close h
      · exact ⟨(names, rest), hm, guard_bind_eq_some_iff.2 ⟨brace, rfl⟩⟩

theorem braces_ok_iff {body : List Stmt} {span : Span} :
    braces read ts = .ok ((body, span), rest) ↔
      ∃ mid, read .body ts.tail = .ok (body, mid) ∧ nextKind mid = .rightBrace ∧
        span = (next ts).span.through (next mid).span ∧ rest = mid.tail := by
  simp only [braces, bind_ok_iff, Prod.exists, expect_ok_iff, Except.ok.injEq, Prod.mk.injEq]
  constructor
  · rintro ⟨body, mid, hb, t, rest', ⟨hk, rfl, rfl⟩, ⟨rfl, rfl⟩, rfl⟩
    exact ⟨mid, hb, hk, rfl, rfl⟩
  · rintro ⟨mid, hb, hk, rfl, rfl⟩
    exact ⟨body, mid, hb, _, _, ⟨hk, rfl, rfl⟩, ⟨rfl, rfl⟩, rfl⟩

theorem callArguments_ok_iff {args : List Expr} :
    callArguments read ts = .ok (args, rest) ↔
      (nextKind ts = .rightParen ∧ args = [] ∧ rest = ts) ∨
        (nextKind ts ≠ .rightParen ∧ read .arguments ts = .ok (args, rest)) := by
  unfold callArguments
  split
  next h => simp [h, eq_comm]
  next h => simp [h]

theorem call_ok_iff {name : Token} :
    call read name ts = .ok (e, rest) ↔
      ∃ args mid, callArguments read ts = .ok (args, mid) ∧ nextKind mid = .rightParen ∧
        e = .call name.lexeme args (name.span.through (next mid).span) ∧ rest = mid.tail := by
  simp only [call, bind_ok_iff, Prod.exists, expect_ok_iff, Except.ok.injEq, Prod.mk.injEq]
  constructor
  · rintro ⟨args, mid, ha, t, rest', ⟨hk, rfl, rfl⟩, rfl, rfl⟩
    exact ⟨args, mid, ha, hk, rfl, rfl⟩
  · rintro ⟨args, mid, ha, hk, rfl, rfl⟩
    exact ⟨args, mid, ha, _, _, ⟨hk, rfl, rfl⟩, rfl, rfl⟩

/-- The declaration of `name` with a body that spans `bodySpan`. -/
def declared (name : Token) (params : List String) (body : List Stmt) (bodySpan : Span) : Expr :=
  .function ⟨name.lexeme, params, body, anyReturns body, name.span.through bodySpan⟩
    (name.span.through bodySpan)

theorem declaration_ok_iff {name : Token} {params : List String} :
    declaration read name params ts = .ok (e, rest) ↔
      ∃ body bodySpan, braces read ts = .ok ((body, bodySpan), rest) ∧
        e = declared name params body bodySpan := by
  simp only [declaration, bind_ok_iff, Prod.exists, Except.ok.injEq, Prod.mk.injEq]
  constructor
  · rintro ⟨body, span, mid, hb, rfl, rfl⟩
    exact ⟨body, span, hb, rfl⟩
  · rintro ⟨body, span, hb, rfl⟩
    exact ⟨body, span, rest, hb, rfl, rfl⟩

theorem named_ok_iff {name : Token} :
    named read name ts = .ok (e, rest) ↔
      (∃ params mid, params? ts = some (params, mid) ∧
        declaration read name params mid = .ok (e, rest)) ∨
      (params? ts = none ∧ nextKind ts = .leftParen ∧ call read name ts.tail = .ok (e, rest)) ∨
      (params? ts = none ∧ nextKind ts ≠ .leftParen ∧ e = .variable name.lexeme name.span ∧
        rest = ts) := by
  unfold named
  split
  next params mid h =>
    rw [h]
    constructor
    · intro made
      exact .inl ⟨params, mid, rfl, made⟩
    · rintro (⟨params', mid', same, made⟩ | ⟨none, -⟩ | ⟨none, -⟩)
      · cases same
        exact made
      · cases none
      · cases none
  next h =>
    split
    next paren => simp [h, paren]
    next paren => simp [h, paren, eq_comm]

theorem primary_ok_iff :
    primary read ts = .ok (e, rest) ↔
      (nextKind ts = .leftParen ∧ ∃ mid, read .expression ts.tail = .ok (e, mid) ∧
        nextKind mid = .rightParen ∧ rest = mid.tail) ∨
      (nextKind ts = .identifier ∧ named read (next ts) ts.tail = .ok (e, rest)) ∨
      (nextKind ts ≠ .leftParen ∧ nextKind ts ≠ .identifier ∧
        ∃ v, literal? (next ts) = .ok v ∧ e = .literal v (next ts).span ∧ rest = ts.tail) := by
  unfold primary nextKind
  dsimp only
  split
  next h =>
    simp only [h, bind_ok_iff, Prod.exists, expect_ok_iff, Except.ok.injEq, Prod.mk.injEq]
    constructor
    · rintro ⟨inner, mid, hi, t, rest', ⟨hk, rfl, rfl⟩, rfl, rfl⟩
      exact .inl ⟨trivial, mid, hi, hk, rfl⟩
    · rintro (⟨-, mid, hi, hk, rfl⟩ | ⟨h, -⟩ | ⟨h, -⟩)
      · exact ⟨e, mid, hi, _, _, ⟨hk, rfl, rfl⟩, rfl, rfl⟩
      · cases h
      · exact absurd rfl h
  next h => simp [h]
  next paren name =>
    simp only [bind_ok_iff, Except.ok.injEq, Prod.mk.injEq]
    constructor
    · rintro ⟨v, hv, rfl, rfl⟩
      exact .inr (.inr ⟨paren, name, v, hv, rfl, rfl⟩)
    · rintro (⟨h, -⟩ | ⟨h, -⟩ | ⟨-, -, v, hv, rfl, rfl⟩)
      · exact absurd h paren
      · exact absurd h name
      · exact ⟨v, hv, rfl, rfl⟩

theorem unary_ok_iff :
    unary read ts = .ok (e, rest) ↔
      (∃ op operand, unaryOp? (nextKind ts) = some op ∧ read .unary ts.tail = .ok (operand, rest) ∧
        e = .unary op operand ((next ts).span.through operand.span)) ∨
      (unaryOp? (nextKind ts) = none ∧ primary read ts = .ok (e, rest)) := by
  unfold unary
  split
  next op h =>
    simp only [h, bind_ok_iff, Prod.exists, Except.ok.injEq, Prod.mk.injEq]
    constructor
    · rintro ⟨operand, mid, ho, rfl, rfl⟩
      exact .inl ⟨op, operand, rfl, ho, rfl⟩
    · rintro (⟨op', operand, same, ho, rfl⟩ | ⟨none, -⟩)
      · cases same
        exact ⟨operand, rest, ho, rfl, rfl⟩
      · cases none
  next h => simp [h]

theorem arguments_ok_iff {args : List Expr} :
    arguments read ts = .ok (args, rest) ↔
      ∃ e mid, read .expression ts = .ok (e, mid) ∧
        ((nextKind mid ≠ .comma ∧ args = [e] ∧ rest = mid) ∨
          (nextKind mid = .comma ∧ ∃ more, read .arguments mid.tail = .ok (more, rest) ∧
            args = e :: more)) := by
  simp only [arguments, bind_ok_iff, Prod.exists]
  refine exists_congr fun e => exists_congr fun mid => and_congr_right fun _ => ?_
  split
  next h =>
    simp only [h, bind_ok_iff, Prod.exists, Except.ok.injEq, Prod.mk.injEq, ne_eq,
      not_true_eq_false, false_and, true_and, false_or]
    constructor
    · rintro ⟨more, mid', hm, rfl, rfl⟩
      exact ⟨more, hm, rfl⟩
    · rintro ⟨more, hm, rfl⟩
      exact ⟨more, rest, hm, rfl, rfl⟩
  next h => simp [h, eq_comm]

/-! ## Statements -/

theorem newVariable_ok_iff {start : Token} :
    newVariable read start ts = .ok (s, rest) ↔
      nextKind ts = .identifier ∧ nextKind ts.tail = .equals ∧
        ∃ value, read .expression ts.tail.tail = .ok (value, rest) ∧
          s = .variable (next ts).lexeme value (start.span.through value.span) := by
  simp only [newVariable, bind_ok_iff, Prod.exists, expect_ok_iff, Except.ok.injEq, Prod.mk.injEq]
  constructor
  · rintro ⟨name, mid, ⟨hn, rfl, rfl⟩, mark, mid', ⟨hm, rfl, rfl⟩, value, mid'', hv, rfl, rfl⟩
    exact ⟨hn, hm, value, hv, rfl⟩
  · rintro ⟨hn, hm, value, hv, rfl⟩
    exact ⟨_, _, ⟨hn, rfl, rfl⟩, _, _, ⟨hm, rfl, rfl⟩, value, rest, hv, rfl, rfl⟩

theorem assignment_ok_iff {name : Token} :
    assignment read name ts = .ok (s, rest) ↔
      ∃ value, read .expression ts.tail = .ok (value, rest) ∧
        s = .assign name.lexeme value (name.span.through value.span) := by
  simp only [assignment, bind_ok_iff, Prod.exists, Except.ok.injEq, Prod.mk.injEq]
  constructor
  · rintro ⟨value, mid, hv, rfl, rfl⟩
    exact ⟨value, hv, rfl⟩
  · rintro ⟨value, hv, rfl⟩
    exact ⟨value, rest, hv, rfl, rfl⟩

theorem condition_ok_iff {wanted : Wanted} :
    condition read wanted ts = .ok (e, rest) ↔
      nextKind ts = .leftParen ∧ ∃ mid, read .expression ts.tail = .ok (e, mid) ∧
        nextKind mid = .rightParen ∧ rest = mid.tail := by
  simp only [condition, bind_ok_iff, Prod.exists, expect_ok_iff, Except.ok.injEq, Prod.mk.injEq]
  constructor
  · rintro ⟨t, mid, ⟨ho, rfl, rfl⟩, e, mid', he, t', mid'', ⟨hc, rfl, rfl⟩, rfl, rfl⟩
    exact ⟨ho, mid', he, hc, rfl⟩
  · rintro ⟨ho, mid, he, hc, rfl⟩
    exact ⟨_, _, ⟨ho, rfl, rfl⟩, e, mid, he, _, _, ⟨hc, rfl, rfl⟩, rfl, rfl⟩

theorem branch_ok_iff {start : Token} :
    branch read start ts = .ok (s, rest) ↔
      ∃ test mid thenBody thenSpan after, condition read .ifParen ts = .ok (test, mid) ∧
        read .block mid = .ok ((thenBody, thenSpan), after) ∧
        ((nextKind after ≠ .elseWord ∧ rest = after ∧
            s = .branch test thenBody none (start.span.through thenSpan)) ∨
          (nextKind after = .elseWord ∧ ∃ elseBody elseSpan,
            read .block after.tail = .ok ((elseBody, elseSpan), rest) ∧
            s = .branch test thenBody (some elseBody) (start.span.through elseSpan))) := by
  simp only [branch, bind_ok_iff, Prod.exists]
  constructor
  · rintro ⟨test, mid, ht, thenBody, thenSpan, after, hb, made⟩
    refine ⟨test, mid, thenBody, thenSpan, after, ht, hb, ?_⟩
    split at made
    next h =>
      simp only [bind_ok_iff, Prod.exists, Except.ok.injEq, Prod.mk.injEq] at made
      obtain ⟨elseBody, elseSpan, last, he, rfl, rfl⟩ := made
      exact .inr ⟨h, elseBody, elseSpan, he, rfl⟩
    next h =>
      simp only [Except.ok.injEq, Prod.mk.injEq] at made
      exact .inl ⟨h, made.2.symm, made.1.symm⟩
  · rintro ⟨test, mid, thenBody, thenSpan, after, ht, hb, made⟩
    refine ⟨test, mid, ht, thenBody, thenSpan, after, hb, ?_⟩
    rcases made with ⟨h, rfl, rfl⟩ | ⟨h, elseBody, elseSpan, he, rfl⟩
    · rw [if_neg h]
    · rw [if_pos h]
      simp only [bind_ok_iff, Prod.exists, Except.ok.injEq, Prod.mk.injEq]
      exact ⟨elseBody, elseSpan, rest, he, rfl, rfl⟩

theorem loop_ok_iff {start : Token} :
    loop read start ts = .ok (s, rest) ↔
      ∃ test mid body span, condition read .whileParen ts = .ok (test, mid) ∧
        read .block mid = .ok ((body, span), rest) ∧
        s = .loop test body (start.span.through span) := by
  simp only [loop, bind_ok_iff, Prod.exists, Except.ok.injEq, Prod.mk.injEq]
  constructor
  · rintro ⟨test, mid, ht, body, span, after, hb, rfl, rfl⟩
    exact ⟨test, mid, body, span, ht, hb, rfl⟩
  · rintro ⟨test, mid, body, span, ht, hb, rfl⟩
    exact ⟨test, mid, ht, body, span, rest, hb, rfl, rfl⟩

theorem result_ok_iff {start : Token} :
    result read start ts = .ok (s, rest) ↔
      (endsResult (nextKind ts) = true ∧ s = .result none (start.span.through start.span) ∧
        rest = ts) ∨
      (endsResult (nextKind ts) = false ∧ ∃ value, read .expression ts = .ok (value, rest) ∧
        s = .result (some value) (start.span.through value.span)) := by
  unfold result
  split
  next h => simp [h, eq_comm]
  next h =>
    simp only [h, bind_ok_iff, Prod.exists, Except.ok.injEq, Prod.mk.injEq]
    constructor
    · rintro ⟨value, mid, hv, rfl, rfl⟩
      exact .inr ⟨trivial, value, hv, rfl⟩
    · rintro (⟨h, -⟩ | ⟨-, value, hv, rfl⟩)
      · cases h
      · exact ⟨value, rest, hv, rfl, rfl⟩

theorem expressionStatement_ok_iff :
    expressionStatement read ts = .ok (s, rest) ↔
      ∃ value, read .expression ts = .ok (value, rest) ∧ s = .expr value value.span := by
  simp only [expressionStatement, bind_ok_iff, Prod.exists, Except.ok.injEq, Prod.mk.injEq]
  constructor
  · rintro ⟨value, mid, hv, rfl, rfl⟩
    exact ⟨value, hv, rfl⟩
  · rintro ⟨value, hv, rfl⟩
    exact ⟨value, rest, hv, rfl, rfl⟩

/-- Whether a statement that begins with `kind` and then `second` is an expression. -/
def BeginsExpression (kind second : TokenKind) : Prop :=
  kind ∉ [.varWord, .ifWord, .whileWord, .returnWord, .breakWord, .continueWord] ∧
    (kind = .identifier → second ≠ .equals)

/-- The next token, and after a name the one after it, tell which statement is read. -/
theorem bareStatement_forms (ts : List Token) :
    (nextKind ts = .varWord ∧
      ∀ read, bareStatement read ts = newVariable read (next ts) ts.tail) ∨
    (nextKind ts = .ifWord ∧ ∀ read, bareStatement read ts = branch read (next ts) ts.tail) ∨
    (nextKind ts = .whileWord ∧ ∀ read, bareStatement read ts = loop read (next ts) ts.tail) ∨
    (nextKind ts = .returnWord ∧ ∀ read, bareStatement read ts = result read (next ts) ts.tail) ∨
    (nextKind ts = .breakWord ∧
      ∀ read, bareStatement read ts = .ok (.jump .breakLoop (next ts).span, ts.tail)) ∨
    (nextKind ts = .continueWord ∧
      ∀ read, bareStatement read ts = .ok (.jump .continueLoop (next ts).span, ts.tail)) ∨
    (nextKind ts = .identifier ∧ nextKind ts.tail = .equals ∧
      ∀ read, bareStatement read ts = assignment read (next ts) ts.tail) ∨
    (BeginsExpression (nextKind ts) (nextKind ts.tail) ∧
      ∀ read, bareStatement read ts = expressionStatement read ts) := by
  unfold bareStatement BeginsExpression
  generalize hk : nextKind ts = kind
  unfold nextKind at hk
  simp only [hk]
  cases kind with
  | varWord => exact .inl ⟨rfl, fun _ => rfl⟩
  | ifWord => exact .inr (.inl ⟨rfl, fun _ => rfl⟩)
  | whileWord => exact .inr (.inr (.inl ⟨rfl, fun _ => rfl⟩))
  | returnWord => exact .inr (.inr (.inr (.inl ⟨rfl, fun _ => rfl⟩)))
  | breakWord => exact .inr (.inr (.inr (.inr (.inl ⟨rfl, fun _ => rfl⟩))))
  | continueWord => exact .inr (.inr (.inr (.inr (.inr (.inl ⟨rfl, fun _ => rfl⟩)))))
  | identifier =>
    refine .inr (.inr (.inr (.inr (.inr (.inr ?_)))))
    by_cases h : nextKind ts.tail = .equals
    · exact .inl ⟨rfl, h, fun _ => if_pos h⟩
    · exact .inr ⟨⟨by decide, fun _ => h⟩, fun _ => if_neg h⟩
  | _ =>
    refine .inr (.inr (.inr (.inr (.inr (.inr (.inr ?_))))))
    exact ⟨⟨by decide, nofun⟩, fun _ => rfl⟩

theorem bareStatement_of_beginsExpression
    (h : BeginsExpression (nextKind ts) (nextKind ts.tail)) (read : Readers) :
    bareStatement read ts = expressionStatement read ts := by
  obtain ⟨other, second⟩ := h
  obtain ⟨k, -⟩ | ⟨k, -⟩ | ⟨k, -⟩ | ⟨k, -⟩ | ⟨k, -⟩ | ⟨k, -⟩ | ⟨k, equals, -⟩ | ⟨-, eq⟩ :=
    bareStatement_forms ts
  case inr.inr.inr.inr.inr.inr.inr => exact eq read
  case inr.inr.inr.inr.inr.inr.inl => exact absurd equals (second k)
  all_goals
    rw [k] at other
    exact absurd other (by decide)

theorem statement_ok_iff :
    statement read ts = .ok (s, rest) ↔
      ∃ mid, bareStatement read ts = .ok (s, mid) ∧ rest = skipSemicolon mid := by
  simp only [statement, bind_ok_iff, Prod.exists, Except.ok.injEq, Prod.mk.injEq]
  constructor
  · rintro ⟨s, mid, hs, rfl, rfl⟩
    exact ⟨mid, hs, rfl⟩
  · rintro ⟨mid, hs, rfl⟩
    exact ⟨s, mid, hs, rfl, rfl⟩

theorem block_ok_iff {body : List Stmt} {span : Span} :
    block read ts = .ok ((body, span), rest) ↔
      (nextKind ts = .leftBrace ∧ braces read ts = .ok ((body, span), rest)) ∨
      (nextKind ts ≠ .leftBrace ∧ ∃ s, read .statement ts = .ok (s, rest) ∧ body = [s] ∧
        span = s.span) := by
  unfold block
  split
  next h => simp [h]
  next h =>
    simp only [h, bind_ok_iff, Prod.exists, Except.ok.injEq, Prod.mk.injEq, ne_eq,
      not_false_eq_true, true_and, false_and, false_or]
    constructor
    · rintro ⟨s, mid, hs, ⟨rfl, rfl⟩, rfl⟩
      exact ⟨s, hs, rfl, rfl⟩
    · rintro ⟨s, hs, rfl, rfl⟩
      exact ⟨s, rest, hs, ⟨rfl, rfl⟩, rfl⟩

/-- The kinds of tokens at which a phrase of statements ends. -/
def ClosesBody (kind : TokenKind) : Prop := kind = .rightBrace ∨ kind = .endOfInput

instance (kind : TokenKind) : Decidable (ClosesBody kind) :=
  inferInstanceAs (Decidable (_ ∨ _))

theorem body_ok_iff {body : List Stmt} :
    Grammar.body read ts = .ok (body, rest) ↔
      (ClosesBody (nextKind ts) ∧ body = [] ∧ rest = ts) ∨
      (¬ ClosesBody (nextKind ts) ∧ ∃ s mid more, read .statement ts = .ok (s, mid) ∧
        read .body mid = .ok (more, rest) ∧ body = s :: more) := by
  unfold Grammar.body ClosesBody
  split
  next h =>
    simp only [h, true_and, not_true_eq_false, false_and, or_false, Except.ok.injEq, Prod.mk.injEq]
    rw [eq_comm, @eq_comm _ ts]
  next h =>
    simp only [h, bind_ok_iff, Prod.exists, Except.ok.injEq, Prod.mk.injEq, not_false_eq_true,
      true_and, false_and, false_or]
    constructor
    · rintro ⟨s, mid, hs, more, mid', hm, rfl, rfl⟩
      exact ⟨s, mid, more, hs, hm, rfl⟩
    · rintro ⟨s, mid, more, hs, hm, rfl⟩
      exact ⟨s, mid, hs, more, rest, hm, rfl, rfl⟩

theorem program_ok_iff {body : List Stmt} :
    program read ts = .ok (body, rest) ↔
      (nextKind ts = .endOfInput ∧ body = [] ∧ rest = ts) ∨
      (nextKind ts ≠ .endOfInput ∧ ∃ s mid more, read .statement ts = .ok (s, mid) ∧
        read .program mid = .ok (more, rest) ∧ body = s :: more) := by
  unfold program
  split
  next h => simp [h, eq_comm]
  next h =>
    simp only [h, bind_ok_iff, Prod.exists, Except.ok.injEq, Prod.mk.injEq, ne_eq,
      not_false_eq_true, true_and, false_and, false_or]
    constructor
    · rintro ⟨s, mid, hs, more, mid', hm, rfl, rfl⟩
      exact ⟨s, mid, more, hs, hm, rfl⟩
    · rintro ⟨s, mid, more, hs, hm, rfl⟩
      exact ⟨s, mid, hs, more, rest, hm, rfl, rfl⟩

end Scriptlet.Grammar
