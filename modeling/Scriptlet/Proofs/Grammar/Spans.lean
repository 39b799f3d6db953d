import Scriptlet.Proofs.Grammar.Fixpoint

/-
  Reading does not look at spans.
  A phrase read from tokens without spans is the phrase read from the tokens themselves, without
  its spans; a fault is the same fault without its spans (`readAll_unspanned`). The spans of a tree
  decide nothing about it either: not its static types, not whether a body returns.
-/

namespace Scriptlet

/-! ## Trees without spans -/

theorem Expr.staticType_unspanned (e : Expr) : e.unspanned.staticType = e.staticType := by
  cases e <;> simp only [Expr.unspanned, Expr.staticType]

theorem Expr.span_unspanned (e : Expr) : e.unspanned.span = .zero := by
  cases e <;> simp only [Expr.unspanned, Expr.span]

theorem Stmt.span_unspanned (s : Stmt) : s.unspanned.span = .zero := by
  cases s with
  | branch condition thenBody elseBody span =>
    cases elseBody <;> simp only [Stmt.unspanned, Stmt.span]
  | result value span => cases value <;> simp only [Stmt.unspanned, Stmt.span]
  | _ => simp only [Stmt.unspanned, Stmt.span]

mutual

theorem Stmt.returns_unspanned : ∀ s : Stmt, s.unspanned.returns = s.returns
  | .variable _ _ _ | .assign _ _ _ | .jump _ _ | .expr _ _ => rfl
  | .branch _ thenBody none _ => by
    simp only [Stmt.unspanned, Stmt.returns, anyReturns_unspannedBody thenBody]
  | .branch _ thenBody (some elseBody) _ => by
    simp only [Stmt.unspanned, Stmt.returns, anyReturns_unspannedBody thenBody,
      anyReturns_unspannedBody elseBody]
  | .loop _ body _ => by
    simp only [Stmt.unspanned, Stmt.returns, anyReturns_unspannedBody body]
  | .result none _ | .result (some _) _ => rfl

/-- Whether a body returns does not depend on its spans. -/
theorem anyReturns_unspannedBody : ∀ body : List Stmt,
    anyReturns (unspannedBody body) = anyReturns body
  | [] => rfl
  | s :: rest => by
    simp only [unspannedBody, anyReturns, s.returns_unspanned, anyReturns_unspannedBody rest]

end

/-! ## Phrases and faults without spans -/

/-- The fault with every span at the beginning. -/
def ParseFault.unspanned : ParseFault → ParseFault
  | .unexpected wanted found => .unexpected wanted found.unspanned
  | .typeMismatch op left right _ => .typeMismatch op left right .zero
  | .exhausted => .exhausted

namespace Phrase

/-- The phrase with every span at the beginning. -/
def unspanned : Phrase → Phrase
  | .chain level left => .chain level left.unspanned
  | phrase => phrase

/-- What is read from a phrase, with every span at the beginning. -/
def erase : (phrase : Phrase) → phrase.Result → phrase.unspanned.Result
  | .program, stmts => unspannedBody stmts
  | .body, stmts => unspannedBody stmts
  | .block, (stmts, _) => (unspannedBody stmts, .zero)
  | .statement, s => s.unspanned
  | .operation _, e => e.unspanned
  | .chain _ _, e => e.unspanned
  | .unary, e => e.unspanned
  | .arguments, exprs => unspannedArgs exprs

end Phrase

namespace Grammar

variable {α β γ δ : Type} {read : Readers} {level : Level}

/-- What a reader of spanned tokens finds, with every span at the beginning. -/
def erased (f : α → β) (r : Except ParseFault (α × List Token)) :
    Except ParseFault (β × List Token) :=
  match r with
  | .ok (a, ts) => .ok (f a, ts.map Token.unspanned)
  | .error fault => .error fault.unspanned

theorem erased_bind {f : α → β} {g : γ → δ} {m : Except ParseFault (α × List Token)}
    {m' : Except ParseFault (β × List Token)}
    {k : α × List Token → Except ParseFault (γ × List Token)}
    {k' : β × List Token → Except ParseFault (δ × List Token)} (first : m' = erased f m)
    (then_ : ∀ a ts, k' (f a, ts.map Token.unspanned) = erased g (k (a, ts))) :
    (m' >>= k') = erased g (m >>= k) := by
  subst first
  cases m with
  | error fault => rfl
  | ok a => exact then_ a.1 a.2

/-- A reader that does not look at spans. -/
def Blind (read : Readers) : Prop :=
  ∀ (phrase : Phrase) (ts : List Token),
    read phrase.unspanned (ts.map Token.unspanned) = erased phrase.erase (read phrase ts)

/-! ## Single tokens -/

theorem next_unspanned (ts : List Token) : next (ts.map Token.unspanned) = (next ts).unspanned := by
  cases ts <;> rfl

@[simp] theorem nextKind_unspanned (ts : List Token) :
    nextKind (ts.map Token.unspanned) = nextKind ts := by
  cases ts <;> rfl

theorem tail_unspanned (ts : List Token) :
    (ts.map Token.unspanned).tail = ts.tail.map Token.unspanned := by
  cases ts <;> rfl

theorem expect_unspanned (kind : TokenKind) (wanted : Wanted) (ts : List Token) :
    expect kind wanted (ts.map Token.unspanned) =
      erased Token.unspanned (expect kind wanted ts) := by
  unfold expect
  rw [nextKind_unspanned, next_unspanned, tail_unspanned]
  split <;> rfl

theorem skipSemicolon_unspanned (ts : List Token) :
    skipSemicolon (ts.map Token.unspanned) = (skipSemicolon ts).map Token.unspanned := by
  unfold skipSemicolon
  rw [nextKind_unspanned, tail_unspanned]
  split <;> rfl

theorem literal?_unspanned (t : Token) :
    literal? t.unspanned = (literal? t).mapError ParseFault.unspanned := by
  obtain ⟨kind, lexeme, span⟩ := t
  cases kind <;> try rfl
  unfold literal? Token.unspanned
  dsimp only
  cases Binary.read? lexeme <;> rfl

theorem combine_unspanned (op : BinaryOp) (left right : Expr) :
    combine op left.unspanned right.unspanned =
      match combine op left right with
      | .ok e => .ok e.unspanned
      | .error fault => .error fault.unspanned := by
  unfold combine
  rw [left.staticType_unspanned, right.staticType_unspanned, left.span_unspanned,
    right.span_unspanned]
  split <;> rfl

theorem moreParams?_unspanned (ts : List Token) :
    moreParams? (ts.map Token.unspanned) =
      (moreParams? ts).map fun (names, ts) => (names, ts.map Token.unspanned) := by
  fun_induction moreParams? ts with
  | case1 name mark ts h => simp [moreParams?, Token.unspanned, h]
  | case2 name mark ts h hm => simp [moreParams?, Token.unspanned, h, hm]
  | case3 name mark ts h h1 hm ih =>
    simp only [List.map_cons, moreParams?]
    rw [ih]
    simp [Token.unspanned, h, hm, Function.comp_def]
  | case4 name mark ts h h1 hm => simp [moreParams?, Token.unspanned, h, h1, hm]
  | case5 ts h =>
    cases ts with
    | nil => rfl
    | cons t ts =>
      cases ts with
      | nil => rfl
      | cons t' ts => exact absurd rfl (h t t' ts)

theorem params?_unspanned (ts : List Token) :
    params? (ts.map Token.unspanned) =
      (params? ts).map fun (names, ts) => (names, ts.map Token.unspanned) := by
  refine Option.ext fun ⟨names, rest⟩ => ?_
  rw [params?_eq_some_iff, Option.map_eq_some_iff, nextKind_unspanned, tail_unspanned,
    nextKind_unspanned, tail_unspanned, moreParams?_unspanned]
  constructor
  · rintro ⟨paren, brace, ⟨close, rfl, rfl⟩ | ⟨filled, more⟩⟩
    · rw [nextKind_unspanned] at brace
      exact ⟨_, params?_eq_some_iff.2 ⟨paren, brace, .inl ⟨close, rfl, rfl⟩⟩, rfl⟩
    · obtain ⟨⟨names', mid⟩, found, same⟩ := Option.map_eq_some_iff.1 more
      cases same
      rw [nextKind_unspanned] at brace
      exact ⟨_, params?_eq_some_iff.2 ⟨paren, brace, .inr ⟨filled, found⟩⟩, rfl⟩
  · rintro ⟨⟨names', mid⟩, found, same⟩
    cases same
    rcases params?_eq_some_iff.1 found with ⟨paren, brace, ⟨close, rfl, rfl⟩ | ⟨filled, more⟩⟩
    · exact ⟨paren, (nextKind_unspanned _).trans brace, .inl ⟨close, rfl, rfl⟩⟩
    · refine ⟨paren, (nextKind_unspanned _).trans brace, .inr ⟨filled, ?_⟩⟩
      rw [more]
      rfl

/-! ## Expressions -/

section

variable (blind : Blind read)
include blind

theorem operand_unspanned (level : Level) (ts : List Token) :
    operand read level (ts.map Token.unspanned) =
      erased Expr.unspanned (operand read level ts) := by
  cases level with
  | disjunction => exact blind (.operation .conjunction) ts
  | conjunction => exact blind (.operation .comparison) ts
  | comparison => exact blind (.operation .sum) ts
  | sum => exact blind (.operation .product) ts
  | product => exact blind .unary ts

theorem operation_unspanned (level : Level) (ts : List Token) :
    operation read level (ts.map Token.unspanned) =
      erased Expr.unspanned (operation read level ts) :=
  erased_bind (operand_unspanned blind level ts) fun left mid => blind (.chain level left) mid

theorem chain_unspanned (level : Level) (left : Expr) (ts : List Token) :
    chain read level left.unspanned (ts.map Token.unspanned) =
      erased Expr.unspanned (chain read level left ts) := by
  unfold chain
  rw [nextKind_unspanned, tail_unspanned]
  cases level.operator? (nextKind ts) with
  | none => rfl
  | some op =>
    refine erased_bind (operand_unspanned blind level ts.tail) fun right mid => ?_
    dsimp only
    rw [combine_unspanned]
    cases combine op left right with
    | error fault => rfl
    | ok whole => exact blind (.chain level whole) mid

/-- A list of statements and its span, with every span at the beginning. -/
def erasedBlock (b : List Stmt × Span) : List Stmt × Span := (unspannedBody b.1, .zero)

theorem braces_unspanned (ts : List Token) :
    braces read (ts.map Token.unspanned) = erased erasedBlock (braces read ts) := by
  unfold braces
  rw [tail_unspanned, next_unspanned]
  refine erased_bind (blind .body ts.tail) fun body mid => ?_
  exact erased_bind (expect_unspanned _ _ mid) fun _ _ => rfl

theorem declaration_unspanned (name : Token) (params : List String) (ts : List Token) :
    declaration read name.unspanned params (ts.map Token.unspanned) =
      erased Expr.unspanned (declaration read name params ts) := by
  refine erased_bind (braces_unspanned blind ts) fun body mid => ?_
  show Except.ok _ = _
  simp only [anyReturns_unspannedBody]
  rfl

theorem callArguments_unspanned (ts : List Token) :
    callArguments read (ts.map Token.unspanned) = erased unspannedArgs (callArguments read ts) := by
  unfold callArguments
  rw [nextKind_unspanned]
  split
  · rfl
  · exact blind .arguments ts

theorem call_unspanned (name : Token) (ts : List Token) :
    call read name.unspanned (ts.map Token.unspanned) =
      erased Expr.unspanned (call read name ts) := by
  refine erased_bind (callArguments_unspanned blind ts) fun args mid => ?_
  exact erased_bind (expect_unspanned _ _ mid) fun _ _ => rfl

theorem named_unspanned (name : Token) (ts : List Token) :
    named read name.unspanned (ts.map Token.unspanned) =
      erased Expr.unspanned (named read name ts) := by
  unfold named
  rw [params?_unspanned, nextKind_unspanned, tail_unspanned]
  cases params? ts with
  | some found => exact declaration_unspanned blind name found.1 found.2
  | none =>
    dsimp only [Option.map_none]
    split
    · exact call_unspanned blind name ts.tail
    · rfl

theorem primary_unspanned (ts : List Token) :
    primary read (ts.map Token.unspanned) = erased Expr.unspanned (primary read ts) := by
  unfold primary
  rw [next_unspanned, tail_unspanned]
  dsimp only
  rw [show (next ts).unspanned.kind = (next ts).kind from rfl]
  split
  · refine erased_bind (blind .expression ts.tail) fun inner mid => ?_
    exact erased_bind (expect_unspanned _ _ mid) fun _ _ => rfl
  · exact named_unspanned blind (next ts) ts.tail
  · rw [literal?_unspanned]
    cases literal? (next ts) <;> rfl

theorem unary_unspanned (ts : List Token) :
    unary read (ts.map Token.unspanned) = erased Expr.unspanned (unary read ts) := by
  unfold unary
  rw [nextKind_unspanned, tail_unspanned, next_unspanned]
  cases unaryOp? (nextKind ts) with
  | none => exact primary_unspanned blind ts
  | some op =>
    refine erased_bind (blind .unary ts.tail) fun operand mid => ?_
    show Except.ok _ = _
    simp only [Phrase.erase, operand.span_unspanned]
    rfl

theorem arguments_unspanned (ts : List Token) :
    arguments read (ts.map Token.unspanned) = erased unspannedArgs (arguments read ts) := by
  refine erased_bind (blind .expression ts) fun e mid => ?_
  dsimp only
  rw [nextKind_unspanned, tail_unspanned]
  split
  · exact erased_bind (blind .arguments mid.tail) fun _ _ => rfl
  · rfl

/-! ## Statements -/

theorem newVariable_unspanned (start : Token) (ts : List Token) :
    newVariable read start.unspanned (ts.map Token.unspanned) =
      erased Stmt.unspanned (newVariable read start ts) := by
  refine erased_bind (expect_unspanned _ _ ts) fun name mid => ?_
  refine erased_bind (expect_unspanned _ _ mid) fun _ mid => ?_
  refine erased_bind (blind .expression mid) fun value rest => ?_
  show Except.ok _ = _
  simp only [Phrase.erase, value.span_unspanned]
  rfl

theorem assignment_unspanned (name : Token) (ts : List Token) :
    assignment read name.unspanned (ts.map Token.unspanned) =
      erased Stmt.unspanned (assignment read name ts) := by
  unfold assignment
  rw [tail_unspanned]
  refine erased_bind (blind .expression ts.tail) fun value rest => ?_
  show Except.ok _ = _
  simp only [Phrase.erase, value.span_unspanned]
  rfl

theorem condition_unspanned (wanted : Wanted) (ts : List Token) :
    condition read wanted (ts.map Token.unspanned) =
      erased Expr.unspanned (condition read wanted ts) := by
  refine erased_bind (expect_unspanned _ _ ts) fun _ mid => ?_
  refine erased_bind (blind .expression mid) fun e mid => ?_
  exact erased_bind (expect_unspanned _ _ mid) fun _ _ => rfl

theorem branch_unspanned (start : Token) (ts : List Token) :
    branch read start.unspanned (ts.map Token.unspanned) =
      erased Stmt.unspanned (branch read start ts) := by
  refine erased_bind (condition_unspanned blind _ ts) fun test mid => ?_
  refine erased_bind (blind .block mid) fun thenBlock after => ?_
  dsimp only
  rw [nextKind_unspanned, tail_unspanned]
  split
  · exact erased_bind (blind .block after.tail) fun _ _ => rfl
  · rfl

theorem loop_unspanned (start : Token) (ts : List Token) :
    loop read start.unspanned (ts.map Token.unspanned) =
      erased Stmt.unspanned (loop read start ts) := by
  refine erased_bind (condition_unspanned blind _ ts) fun test mid => ?_
  exact erased_bind (blind .block mid) fun _ _ => rfl

theorem result_unspanned (start : Token) (ts : List Token) :
    result read start.unspanned (ts.map Token.unspanned) =
      erased Stmt.unspanned (result read start ts) := by
  unfold result
  rw [nextKind_unspanned]
  split
  · rfl
  · refine erased_bind (blind .expression ts) fun value rest => ?_
    show Except.ok _ = _
    simp only [Phrase.erase, value.span_unspanned]
    rfl

theorem expressionStatement_unspanned (ts : List Token) :
    expressionStatement read (ts.map Token.unspanned) =
      erased Stmt.unspanned (expressionStatement read ts) := by
  refine erased_bind (blind .expression ts) fun value rest => ?_
  show Except.ok _ = _
  simp only [Phrase.erase, value.span_unspanned]
  rfl

theorem bareStatement_unspanned (ts : List Token) :
    bareStatement read (ts.map Token.unspanned) =
      erased Stmt.unspanned (bareStatement read ts) := by
  unfold bareStatement
  rw [next_unspanned, tail_unspanned, nextKind_unspanned]
  dsimp only
  rw [show (next ts).unspanned.kind = (next ts).kind from rfl]
  split
  · exact newVariable_unspanned blind (next ts) ts.tail
  · exact branch_unspanned blind (next ts) ts.tail
  · exact loop_unspanned blind (next ts) ts.tail
  · exact result_unspanned blind (next ts) ts.tail
  · rfl
  · rfl
  · split
    · exact assignment_unspanned blind (next ts) ts.tail
    · exact expressionStatement_unspanned blind ts
  · exact expressionStatement_unspanned blind ts

theorem statement_unspanned (ts : List Token) :
    statement read (ts.map Token.unspanned) = erased Stmt.unspanned (statement read ts) := by
  refine erased_bind (bareStatement_unspanned blind ts) fun s mid => ?_
  dsimp only
  rw [skipSemicolon_unspanned]
  rfl

theorem block_unspanned (ts : List Token) :
    block read (ts.map Token.unspanned) = erased erasedBlock (block read ts) := by
  unfold block
  rw [nextKind_unspanned]
  split
  · exact braces_unspanned blind ts
  · refine erased_bind (blind .statement ts) fun s rest => ?_
    show Except.ok _ = _
    simp only [Phrase.erase, s.span_unspanned]
    rfl

theorem body_unspanned (ts : List Token) :
    Grammar.body read (ts.map Token.unspanned) = erased unspannedBody (Grammar.body read ts) := by
  unfold Grammar.body
  rw [nextKind_unspanned]
  split
  · rfl
  · refine erased_bind (blind .statement ts) fun s mid => ?_
    exact erased_bind (blind .body mid) fun _ _ => rfl

theorem program_unspanned (ts : List Token) :
    program read (ts.map Token.unspanned) = erased unspannedBody (program read ts) := by
  unfold program
  rw [nextKind_unspanned]
  split
  · rfl
  · refine erased_bind (blind .statement ts) fun s mid => ?_
    exact erased_bind (blind .program mid) fun _ _ => rfl

theorem produce_blind : Blind (produce read) := by
  intro phrase ts
  cases phrase with
  | program => exact program_unspanned blind ts
  | body => exact body_unspanned blind ts
  | block => exact block_unspanned blind ts
  | statement => exact statement_unspanned blind ts
  | operation level => exact operation_unspanned blind level ts
  | chain level left => exact chain_unspanned blind level left ts
  | unary => exact unary_unspanned blind ts
  | arguments => exact arguments_unspanned blind ts

end

/-! ## All phrases -/

theorem read_blind (fuel : Nat) : Blind (Grammar.read fuel) := by
  induction fuel with
  | zero => intro phrase ts; rfl
  | succ fuel ih => exact produce_blind ih

/-- What is read from tokens without spans is what is read from the tokens, without its spans. -/
theorem readAll_unspanned : Blind readAll := by
  intro phrase ts
  unfold readAll enough
  rw [List.length_map]
  exact read_blind _ phrase ts

end Grammar
end Scriptlet
