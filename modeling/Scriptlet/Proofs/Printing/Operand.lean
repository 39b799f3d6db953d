import Scriptlet.Proofs.Grammar.Spans
import Scriptlet.Proofs.Printing.Source

/-
  Precedence: how written operands are read.
  An operand is read up to the first token that cannot continue it (`Ends`). What a level reads is
  stated with what follows on the same level, since operators group from the left (`ReadsAt`): an
  operand read on a level is read on every looser one, and parentheses take it to every tighter
  one. So an expression that is read on its own level is read wherever the order of precedence
  lets it be written (`Printed`).
-/

namespace Scriptlet.Grammar

variable {ts rest : List Token} {e left right : Expr} {level next : Level} {kind : TokenKind}

/-! ## Ends of operands -/

/-- At a token of this kind an operand of the given rank ends: the token makes no call or
declaration of a name before it, and is an operator of a looser level at most. -/
def Ends (rank : Nat) (kind : TokenKind) : Prop :=
  kind ≠ .leftParen ∧ kind ≠ .leftBrace ∧
    ∀ level op, Level.operator? level kind = some op → level.rank < rank

theorem Ends.mono {loose tight : Nat} (le : loose ≤ tight) (h : Ends loose kind) :
    Ends tight kind :=
  ⟨h.1, h.2.1, fun level op found => Nat.lt_of_lt_of_le (h.2.2 level op found) le⟩

/-- A closing mark ends every operand. -/
theorem ends_of_mark (kind : TokenKind) (rank : Nat)
    (h : kind ∈ [TokenKind.rightParen, .comma, .semicolon]) :
    Ends rank kind := by
  refine ⟨?_, ?_, ?_⟩
  · rintro rfl
    exact absurd h (by decide)
  · rintro rfl
    exact absurd h (by decide)
  · intro level op found
    obtain rfl | rfl | rfl := by simpa using h
    all_goals cases level <;> cases found

/-- So does the end of the input. -/
theorem ends_endOfInput (rank : Nat) : Ends rank .endOfInput := by
  refine ⟨by decide, by decide, fun level op found => ?_⟩
  cases level <;> cases found

theorem operator?_kind (op : BinaryOp) : op.level.operator? op.kind = some op := by
  cases op <;> rfl

theorem level_eq_of_operator? {op op' : BinaryOp} (h : level.operator? op.kind = some op') :
    level = op.level := by
  cases op <;> cases level <;> first | rfl | cases h

/-- An operator ends every operand that is tighter than its own level. -/
theorem ends_operator (op : BinaryOp) : Ends (op.level.rank + 1) op.kind := by
  refine ⟨by cases op <;> decide, by cases op <;> decide, ?_⟩
  intro level op' found
  rw [level_eq_of_operator? found]
  exact Nat.lt_succ_self _

/-! ## Operands of a level -/

/-- The tokens are read as the operand `e` of an operator before them. -/
def ReadsUnary (ts : List Token) (e : Expr) : Prop :=
  ∀ rest, Ends unaryRank (nextKind rest) → readAll .unary (ts ++ rest) = .ok (e, rest)

/-- The tokens are read as an operand `e` of the level. -/
def ReadsOperand (level : Level) (ts : List Token) (e : Expr) : Prop :=
  ∀ rest, Ends (level.rank + 1) (nextKind rest) →
    operand readAll level (ts ++ rest) = .ok (e, rest)

/-- The tokens are read on the level as `e`, and operators of the level join what follows to it. -/
def ReadsAt (level : Level) (ts : List Token) (e : Expr) : Prop :=
  ∀ rest out, Ends (level.rank + 1) (nextKind rest) → readAll (.chain level e) rest = .ok out →
    readAll (.operation level) (ts ++ rest) = .ok out

theorem chain_stops (e : Expr) (h : Ends level.rank (nextKind rest)) :
    readAll (.chain level e) rest = .ok (e, rest) := by
  have none : level.operator? (nextKind rest) = none := by
    refine Option.eq_none_iff_forall_ne_some.2 fun op found => ?_
    exact Nat.lt_irrefl _ (h.2.2 level op found)
  exact (readAll_chain _ _ _).trans (chain_ok_iff.2 (.inl ⟨none, rfl, rfl⟩))

theorem ReadsAt.reads (h : ReadsAt level ts e) (ends : Ends level.rank (nextKind rest)) :
    readAll (.operation level) (ts ++ rest) = .ok (e, rest) :=
  h rest _ (ends.mono (Nat.le_succ _)) (chain_stops e ends)

theorem ReadsOperand.readsAt (h : ReadsOperand level ts e) : ReadsAt level ts e := by
  intro rest out ends chained
  exact (readAll_operation _ _).trans (operation_ok_iff.2 ⟨e, rest, h rest ends, chained⟩)

theorem ReadsUnary.readsOperand (h : ReadsUnary ts e) : ReadsOperand .product ts e :=
  fun rest ends => h rest ends

/-- The level whose operations are the operands of the given one. -/
def tighter? : Level → Option Level
  | .disjunction => some .conjunction
  | .conjunction => some .comparison
  | .comparison => some .sum
  | .sum => some .product
  | .product => none

theorem rank_of_tighter? (h : tighter? level = some next) : next.rank = level.rank + 1 := by
  cases level <;> cases h <;> rfl

theorem exists_tighter (h : level.rank < next.rank) :
    ∃ between, tighter? level = some between := by
  cases level with
  | product => cases next <;> exact absurd h (by decide)
  | _ => exact ⟨_, rfl⟩

theorem ReadsAt.readsOperand (h : ReadsAt next ts e) (tighter : tighter? level = some next) :
    ReadsOperand level ts e := by
  intro rest ends
  rw [← rank_of_tighter? tighter] at ends
  have read := h.reads ends
  cases level <;> cases tighter <;> exact read

/-- What is read on a level is read on every looser one. -/
theorem ReadsAt.looser {tight loose : Level} (h : ReadsAt tight ts e)
    (le : loose.rank ≤ tight.rank) : ReadsAt loose ts e := by
  -- by induction on the number of levels between the two
  generalize between : tight.rank - loose.rank = steps
  induction steps generalizing loose with
  | zero =>
    have same : loose = tight := by
      have ranks : loose.rank = tight.rank := by omega
      cases loose <;> cases tight <;> first | rfl | cases ranks
    exact same ▸ h
  | succ steps ih =>
    have higher : loose.rank < tight.rank := by omega
    obtain ⟨next, tighter⟩ := exists_tighter higher
    have rank := rank_of_tighter? tighter
    have above : ReadsAt next ts e := ih (by omega) (by omega)
    exact (above.readsOperand tighter).readsAt

theorem ReadsUnary.readsAt (h : ReadsUnary ts e) (level : Level) : ReadsAt level ts e :=
  h.readsOperand.readsAt.looser (by cases level <;> decide)

/-- An expression in parentheses is an operand wherever it stands. -/
theorem readsUnary_paren (h : ReadsAt .disjunction ts e) :
    ReadsUnary (TokenKind.leftParen.fixed :: (ts ++ [TokenKind.rightParen.fixed])) e := by
  intro rest _
  have inside : readAll .expression (ts ++ TokenKind.rightParen.fixed :: rest) =
      .ok (e, TokenKind.rightParen.fixed :: rest) :=
    h.reads (ends_of_mark .rightParen _ (by decide))
  rw [List.cons_append, List.append_assoc]
  refine (readAll_unary _).trans (unary_ok_iff.2 (.inr ⟨rfl, ?_⟩))
  exact primary_ok_iff.2 (.inl ⟨rfl, _, inside, rfl, rfl⟩)

/-- An operator before an operand makes an operand. -/
theorem readsUnary_unary {t : Token} {op : UnaryOp} (marks : unaryOp? t.kind = some op)
    (h : ReadsUnary ts e) : ReadsUnary (t :: ts) (.unary op e (t.span.through e.span)) := by
  intro rest ends
  exact (readAll_unary _).trans (unary_ok_iff.2 (.inl ⟨op, e, marks, h rest ends, rfl⟩))

/-- The token of a literal is read as it. -/
theorem readsUnary_literal {t : Token} {value : Literal} (made : literal? t = .ok value) :
    ReadsUnary [t] (.literal value t.span) := by
  intro rest _
  have other : ∀ kind, t.kind = kind → literal? { t with kind := kind } = .ok value := by
    rintro kind rfl
    exact made
  have noParen : t.kind ≠ .leftParen := fun paren => nomatch other _ paren
  have noName : t.kind ≠ .identifier := fun name => nomatch other _ name
  have noMark : unaryOp? t.kind = none := by
    unfold unaryOp?
    split
    next minus => exact nomatch other _ minus
    next not_ => exact nomatch other _ not_
    next => rfl
  refine (readAll_unary _).trans (unary_ok_iff.2 (.inr ⟨noMark, ?_⟩))
  exact primary_ok_iff.2 (.inr (.inr ⟨noParen, noName, value, made, rfl, rfl⟩))

/-! ## Written expressions -/

/-- The expression is read from its tokens wherever the order of precedence lets it stand. -/
structure Printed (style : Numerals) (e : Expr) : Prop where
  unary : unaryRank ≤ e.rank → ReadsUnary (e.tokens style) e.unspanned
  operation : ∀ level : Level, level.rank ≤ e.rank → ReadsAt level (e.tokens style) e.unspanned

variable {style : Numerals}

theorem printed_of_readsUnary (h : ReadsUnary (e.tokens style) e.unspanned) : Printed style e :=
  ⟨fun _ => h, fun level _ => h.readsAt level⟩

/-- A written expression is read up to a token that ends every operand. -/
theorem Printed.reads (h : Printed style e) (ends : Ends 0 (nextKind rest)) :
    readAll .expression (e.tokens style ++ rest) = .ok (e.unspanned, rest) :=
  (h.operation .disjunction (Nat.zero_le _)).reads ends

theorem Printed.reads_before (h : Printed style e) (kind : TokenKind)
    (mark : kind ∈ [TokenKind.rightParen, .comma, .semicolon]) (rest : List Token) :
    readAll .expression (e.tokens style ++ kind.fixed :: rest) =
      .ok (e.unspanned, kind.fixed :: rest) :=
  h.reads (ends_of_mark kind _ mark)

theorem Printed.readsUnary (h : Printed style e) :
    ReadsUnary (enclosed (e.rank < unaryRank) (e.tokens style)) e.unspanned := by
  unfold enclosed
  split
  next => exact readsUnary_paren (h.operation .disjunction (Nat.zero_le _))
  next tight => exact h.unary (Nat.not_lt.1 (of_decide_eq_false (Bool.eq_false_iff.2 tight)))

theorem Printed.readsAt (h : Printed style e) (level : Level) :
    ReadsAt level (enclosed (e.rank < level.rank) (e.tokens style)) e.unspanned := by
  unfold enclosed
  split
  next => exact (readsUnary_paren (h.operation .disjunction (Nat.zero_le _))).readsAt level
  next tight =>
    exact h.operation level (Nat.not_lt.1 (of_decide_eq_false (Bool.eq_false_iff.2 tight)))

theorem Printed.readsOperand (h : Printed style e) (level : Level) :
    ReadsOperand level (enclosed (e.rank < level.rank + 1) (e.tokens style)) e.unspanned := by
  cases tighter : tighter? level with
  | none =>
    obtain rfl : level = .product := by cases level <;> first | rfl | cases tighter
    exact h.readsUnary.readsOperand
  | some next =>
    rw [← rank_of_tighter? tighter]
    exact (h.readsAt next).readsOperand tighter

theorem comparable_unspanned {op : BinaryOp} (h : Comparable op left right) :
    Comparable op left.unspanned right.unspanned := by
  unfold Comparable
  rw [left.staticType_unspanned, right.staticType_unspanned]
  exact h

theorem printed_binary {op : BinaryOp} {span : Span} (hl : Printed style left)
    (hr : Printed style right) (fits : Comparable op left right) :
    Printed style (.binary op left right span) := by
  have own : ReadsAt op.level (Expr.tokens style (.binary op left right span))
      (Expr.unspanned (.binary op left right span)) := by
    intro rest out ends chained
    rw [Expr.tokens, List.append_assoc, List.cons_append]
    refine hl.readsAt op.level _ out (ends_operator op) ?_
    obtain ⟨whole, last⟩ := out
    refine (readAll_chain _ _ _).trans (chain_ok_iff.2 (.inr ⟨op, right.unspanned, rest, ?_⟩))
    refine ⟨operator?_kind op, hr.readsOperand op.level rest ends, comparable_unspanned fits, ?_⟩
    rw [left.span_unspanned, right.span_unspanned]
    exact chained
  refine ⟨fun le => ?_, fun level le => own.looser le⟩
  have below : op.level.rank < unaryRank := by cases op <;> decide
  exact absurd le (Nat.not_le.2 below)

theorem printed_unary {op : UnaryOp} {span : Span} (h : Printed style e) :
    Printed style (.unary op e span) := by
  refine printed_of_readsUnary ?_
  have marks : unaryOp? op.kind.fixed.kind = some op := by cases op <;> rfl
  have reads := readsUnary_unary marks h.readsUnary
  rw [e.span_unspanned] at reads
  rw [Expr.tokens]
  exact reads

end Scriptlet.Grammar
