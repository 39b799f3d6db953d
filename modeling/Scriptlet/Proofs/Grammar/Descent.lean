import Scriptlet.Proofs.Grammar.Fixpoint

/-
  Where the reading of a source comes to.
  Each production reads certain phrases from certain tokens, provided that what stands before them
  has been accepted (`Reads`); no reading descends so for ever (`wellFounded_reads`). A phrase is
  reached from a list of tokens if such steps lead to it from the whole program. Main statement: a
  fault of a phrase that is reached is the fault of the program (`error_of_reached`).
-/

namespace Scriptlet

/-- The phrase of an operand of a level. -/
def Level.operandPhrase : Level → Phrase
  | .disjunction => .operation .conjunction
  | .conjunction => .operation .comparison
  | .comparison => .operation .sum
  | .sum => .operation .product
  | .product => .unary

namespace Grammar

/-- In reading a phrase from `ts`, the reading comes to the phrase inside it and the tokens that are
left there. -/
inductive Reads : Phrase → List Token → Phrase → List Token → Prop
  -- lists of statements
  | programFirst {ts : List Token} (more : nextKind ts ≠ .endOfInput) :
    Reads .program ts .statement ts
  | programRest {ts mid : List Token} {s : Stmt} (more : nextKind ts ≠ .endOfInput)
    (made : readAll .statement ts = .ok (s, mid)) : Reads .program ts .program mid
  | bodyFirst {ts : List Token} (more : ¬ ClosesBody (nextKind ts)) : Reads .body ts .statement ts
  | bodyRest {ts mid : List Token} {s : Stmt} (more : ¬ ClosesBody (nextKind ts))
    (made : readAll .statement ts = .ok (s, mid)) : Reads .body ts .body mid
  | blockBody {ts : List Token} (opening : nextKind ts = .leftBrace) : Reads .block ts .body ts.tail
  | blockStatement {ts : List Token} (single : nextKind ts ≠ .leftBrace) :
    Reads .block ts .statement ts
  -- statements
  | newValue {ts : List Token} (word : nextKind ts = .varWord)
    (name : nextKind ts.tail = .identifier) (mark : nextKind ts.tail.tail = .equals) :
    Reads .statement ts .expression ts.tail.tail.tail
  | assigned {ts : List Token} (name : nextKind ts = .identifier)
    (mark : nextKind ts.tail = .equals) : Reads .statement ts .expression ts.tail.tail
  | branchTest {ts : List Token} (word : nextKind ts = .ifWord)
    (paren : nextKind ts.tail = .leftParen) : Reads .statement ts .expression ts.tail.tail
  | branchThen {ts mid : List Token} {test : Expr} (word : nextKind ts = .ifWord)
    (tested : condition readAll .ifParen ts.tail = .ok (test, mid)) : Reads .statement ts .block mid
  | branchElse {ts mid after : List Token} {test : Expr} {thenMade : List Stmt × Span}
    (word : nextKind ts = .ifWord) (tested : condition readAll .ifParen ts.tail = .ok (test, mid))
    (made : readAll .block mid = .ok (thenMade, after)) (other : nextKind after = .elseWord) :
    Reads .statement ts .block after.tail
  | loopTest {ts : List Token} (word : nextKind ts = .whileWord)
    (paren : nextKind ts.tail = .leftParen) : Reads .statement ts .expression ts.tail.tail
  | loopBody {ts mid : List Token} {test : Expr} (word : nextKind ts = .whileWord)
    (tested : condition readAll .whileParen ts.tail = .ok (test, mid)) :
    Reads .statement ts .block mid
  | returned {ts : List Token} (word : nextKind ts = .returnWord)
    (valued : endsResult (nextKind ts.tail) = false) : Reads .statement ts .expression ts.tail
  | expression {ts : List Token} (begins : BeginsExpression (nextKind ts) (nextKind ts.tail)) :
    Reads .statement ts .expression ts
  -- expressions
  | firstOperand (level : Level) (ts : List Token) :
    Reads (.operation level) ts level.operandPhrase ts
  | afterOperand {level : Level} {ts mid : List Token} {left : Expr}
    (made : operand readAll level ts = .ok (left, mid)) :
    Reads (.operation level) ts (.chain level left) mid
  | nextOperand {level : Level} {ts : List Token} {op : BinaryOp} (left : Expr)
    (mark : level.operator? (nextKind ts) = some op) :
    Reads (.chain level left) ts level.operandPhrase ts.tail
  | afterNext {level : Level} {ts mid : List Token} {op : BinaryOp} {left right : Expr}
    (mark : level.operator? (nextKind ts) = some op)
    (made : operand readAll level ts.tail = .ok (right, mid)) (fits : Comparable op left right) :
    Reads (.chain level left) ts
      (.chain level (.binary op left right (left.span.through right.span))) mid
  | underSign {ts : List Token} {op : UnaryOp} (sign : unaryOp? (nextKind ts) = some op) :
    Reads .unary ts .unary ts.tail
  | grouped {ts : List Token} (paren : nextKind ts = .leftParen) :
    Reads .unary ts .expression ts.tail
  | declared {ts mid : List Token} {params : List String} (name : nextKind ts = .identifier)
    (listed : params? ts.tail = some (params, mid)) : Reads .unary ts .body mid.tail
  | called {ts : List Token} (name : nextKind ts = .identifier) (call : params? ts.tail = none)
    (paren : nextKind ts.tail = .leftParen) (given : nextKind ts.tail.tail ≠ .rightParen) :
    Reads .unary ts .arguments ts.tail.tail
  | firstArgument (ts : List Token) : Reads .arguments ts .expression ts
  | nextArguments {ts mid : List Token} {e : Expr} (made : readAll .expression ts = .ok (e, mid))
    (comma : nextKind mid = .comma) : Reads .arguments ts .arguments mid.tail

/-- The reading of a program from the tokens `all` comes to the phrase, with the tokens `ts`
left. -/
inductive Reached (all : List Token) : Phrase → List Token → Prop
  | start : Reached all .program all
  | step {phrase phrase' : Phrase} {ts ts' : List Token} (before : Reached all phrase ts)
    (reads : Reads phrase ts phrase' ts') : Reached all phrase' ts'

variable {all ts ts' mid : List Token} {phrase phrase' : Phrase} {level : Level}
  {fault : ParseFault}

/-! ## Going forward -/

theorem readAll_suffix {r : phrase.Result} {rest : List Token}
    (made : readAll phrase ts = .ok (r, rest)) : rest <:+ ts :=
  (readAll_advances phrase ts r rest made).1

/-- The phrase inside is read from an end of the tokens. -/
theorem Reads.suffix (reads : Reads phrase ts phrase' ts') : ts' <:+ ts := by
  have tail : ∀ us : List Token, us.tail <:+ us := List.tail_suffix
  cases reads with
  | programFirst | bodyFirst | blockStatement | expression | firstOperand | firstArgument =>
    exact List.suffix_refl _
  | blockBody | returned | nextOperand | underSign | grouped => exact tail ts
  | assigned | branchTest | loopTest | called => exact (tail _).trans (tail ts)
  | newValue => exact (tail _).trans ((tail _).trans (tail ts))
  | programRest more made => exact readAll_suffix made
  | bodyRest more made => exact readAll_suffix made
  | branchThen word tested => exact (condition_ahead readAll_advances tested).1.trans (tail ts)
  | branchElse word tested made other =>
    have before := (condition_ahead readAll_advances tested).1.trans (tail ts)
    exact (tail _).trans ((readAll_suffix made).trans before)
  | loopBody word tested => exact (condition_ahead readAll_advances tested).1.trans (tail ts)
  | afterOperand made => exact (operand_ahead readAll_advances made).1
  | afterNext mark made fits => exact (operand_ahead readAll_advances made).1.trans (tail ts)
  | declared name listed => exact (tail _).trans ((params?_ahead listed).1.trans (tail ts))
  | nextArguments made comma => exact (tail _).trans (readAll_suffix made)

/-- A phrase on fewer tokens needs less, whatever the phrases are. -/
theorem need_lt_of_shorter (phrase phrase' : Phrase) (shorter : ts'.length < ts.length) :
    phrase'.need ts' < phrase.need ts := by
  have low := phrase'.weight_le
  unfold Phrase.need
  omega

/-- The phrase inside is read on fewer tokens, or on the same ones at a lower place in the order of
phrases. -/
theorem Reads.need_lt (reads : Reads phrase ts phrase' ts') :
    phrase'.need ts' < phrase.need ts := by
  have lower {phrase phrase' : Phrase} (lt : phrase'.weight < phrase.weight) :
      phrase'.need ts < phrase.need ts :=
    Nat.add_lt_add_left lt _
  have ahead {phrase phrase' : Phrase} {rest : List Token} (h : Ahead ts rest) :
      phrase'.need rest < phrase.need ts :=
    need_lt_of_shorter phrase phrase' h.2
  have statement {s : Stmt} {mid : List Token} (made : readAll .statement ts = .ok (s, mid)) :
      Ahead ts mid :=
    ⟨readAll_suffix made, (readAll_advances .statement ts s mid made).2 trivial⟩
  have tail : ∀ us : List Token, us.tail <:+ us := List.tail_suffix
  cases reads with
  | programFirst | bodyFirst | blockStatement | expression | firstArgument =>
    exact lower (by decide)
  | firstOperand level => cases level <;> exact lower (by decide)
  | programRest more made | bodyRest more made => exact ahead (statement made)
  | blockBody word | returned word | grouped word => exact ahead (ahead_tail word (by decide))
  | nextOperand left mark => exact ahead (ahead_tail rfl (ne_endOfInput_of_operator? mark))
  | underSign sign => exact ahead (ahead_tail rfl (ne_endOfInput_of_unaryOp? sign))
  | assigned word | branchTest word | loopTest word | called word =>
    exact ahead ((ahead_tail word (by decide)).trans_suffix (tail _))
  | newValue word =>
    exact ahead ((ahead_tail word (by decide)).trans_suffix ((tail _).trans (tail _)))
  | branchThen word tested | loopBody word tested =>
    exact ahead ((ahead_tail word (by decide)).trans (condition_ahead readAll_advances tested))
  | branchElse word tested made other =>
    have test := (ahead_tail word (by decide)).trans (condition_ahead readAll_advances tested)
    exact ahead (test.trans_suffix ((tail _).trans (readAll_suffix made)))
  | afterOperand made => exact ahead (operand_ahead readAll_advances made)
  | afterNext mark made fits =>
    have sign := ahead_tail rfl (ne_endOfInput_of_operator? mark)
    exact ahead (sign.trans (operand_ahead readAll_advances made))
  | declared name listed =>
    have params := (ahead_tail name (by decide)).trans (params?_ahead listed)
    exact ahead (params.trans_suffix (tail _))
  | nextArguments made comma =>
    exact ahead ((expression_ahead readAll_advances made).trans_suffix (tail _))

/-- No reading descends for ever into phrases inside phrases. -/
theorem wellFounded_reads :
    WellFounded fun inside around : Phrase × List Token =>
      Reads around.1 around.2 inside.1 inside.2 :=
  Subrelation.wf Reads.need_lt (measure fun place : Phrase × List Token => place.1.need place.2).wf

theorem Reached.suffix (h : Reached all phrase ts) : ts <:+ all := by
  induction h with
  | start => exact List.suffix_refl all
  | step before reads ih => exact reads.suffix.trans ih

/-! ## Faults of the phrases inside -/

theorem bind_of_ok {ε α β : Type} {m : Except ε α} {f : α → Except ε β} {a : α} (h : m = .ok a) :
    (m >>= f) = f a := by
  rw [h]
  rfl

theorem bind_of_error {ε α β : Type} {m : Except ε α} {f : α → Except ε β} {e : ε}
    (h : m = .error e) : (m >>= f) = .error e := by
  rw [h]
  rfl

theorem expect_of_kind {kind : TokenKind} {wanted : Wanted} (h : nextKind ts = kind) :
    expect kind wanted ts = .ok (next ts, ts.tail) :=
  if_pos h

theorem operand_of_error (h : readAll level.operandPhrase ts = .error fault) :
    operand readAll level ts = .error fault := by
  cases level <;> exact h

theorem condition_of_error {wanted : Wanted} (paren : nextKind ts = .leftParen)
    (failed : readAll .expression ts.tail = .error fault) :
    condition readAll wanted ts = .error fault :=
  (bind_of_ok (expect_of_kind paren)).trans (bind_of_error failed)

theorem statement_of_error (failed : bareStatement readAll ts = .error fault) :
    statement readAll ts = .error fault :=
  bind_of_error failed

theorem bareStatement_of_var (word : nextKind ts = .varWord) (read : Readers) :
    bareStatement read ts = newVariable read (next ts) ts.tail := by
  simp only [bareStatement, show (next ts).kind = .varWord from word]

theorem bareStatement_of_if (word : nextKind ts = .ifWord) (read : Readers) :
    bareStatement read ts = branch read (next ts) ts.tail := by
  simp only [bareStatement, show (next ts).kind = .ifWord from word]

theorem bareStatement_of_while (word : nextKind ts = .whileWord) (read : Readers) :
    bareStatement read ts = loop read (next ts) ts.tail := by
  simp only [bareStatement, show (next ts).kind = .whileWord from word]

theorem bareStatement_of_return (word : nextKind ts = .returnWord) (read : Readers) :
    bareStatement read ts = result read (next ts) ts.tail := by
  simp only [bareStatement, show (next ts).kind = .returnWord from word]

theorem bareStatement_of_equals (name : nextKind ts = .identifier)
    (mark : nextKind ts.tail = .equals) (read : Readers) :
    bareStatement read ts = assignment read (next ts) ts.tail := by
  simp only [bareStatement, show (next ts).kind = .identifier from name]
  exact if_pos mark

theorem unary_of_primary (sign : unaryOp? (nextKind ts) = none) :
    unary readAll ts = primary readAll ts := by
  unfold unary
  rw [sign]

theorem primary_of_paren {read : Readers} (paren : nextKind ts = .leftParen) :
    primary read ts = (read .expression ts.tail >>= fun (inner, ts) =>
      expect .rightParen .parenEnd ts >>= fun (_, ts) => .ok (inner, ts)) := by
  unfold primary
  dsimp only
  rw [show (next ts).kind = .leftParen from paren]

theorem primary_of_name {read : Readers} (name : nextKind ts = .identifier) :
    primary read ts = named read (next ts) ts.tail := by
  unfold primary
  dsimp only
  rw [show (next ts).kind = .identifier from name]

theorem primary_of_literal {read : Readers} (paren : nextKind ts ≠ .leftParen)
    (name : nextKind ts ≠ .identifier) :
    primary read ts = (literal? (next ts) >>= fun v =>
      .ok (.literal v (next ts).span, ts.tail)) := by
  unfold primary
  dsimp only
  split
  next begins => exact absurd begins paren
  next begins => exact absurd begins name
  next => rfl

/-- A fault of a phrase inside is the fault of the phrase. -/
theorem error_of_reads (reads : Reads phrase ts phrase' ts')
    (failed : readAll phrase' ts' = .error fault) : readAll phrase ts = .error fault := by
  rw [readAll_eq_produce]
  cases reads with
  | programFirst more => exact (if_neg more).trans (bind_of_error failed)
  | programRest more made =>
    exact (if_neg more).trans ((bind_of_ok made).trans (bind_of_error failed))
  | bodyFirst more => exact (if_neg more).trans (bind_of_error failed)
  | bodyRest more made =>
    exact (if_neg more).trans ((bind_of_ok made).trans (bind_of_error failed))
  | blockBody opening => exact (if_pos opening).trans (bind_of_error failed)
  | blockStatement single => exact (if_neg single).trans (bind_of_error failed)
  | newValue word name mark =>
    refine statement_of_error ((bareStatement_of_var word readAll).trans ?_)
    refine (bind_of_ok (expect_of_kind name)).trans ?_
    exact (bind_of_ok (expect_of_kind mark)).trans (bind_of_error failed)
  | assigned name mark =>
    refine statement_of_error ((bareStatement_of_equals name mark readAll).trans ?_)
    exact bind_of_error failed
  | branchTest word paren =>
    refine statement_of_error ((bareStatement_of_if word readAll).trans ?_)
    exact bind_of_error (condition_of_error paren failed)
  | branchThen word tested =>
    refine statement_of_error ((bareStatement_of_if word readAll).trans ?_)
    exact (bind_of_ok tested).trans (bind_of_error failed)
  | branchElse word tested made other =>
    refine statement_of_error ((bareStatement_of_if word readAll).trans ?_)
    refine (bind_of_ok tested).trans ((bind_of_ok made).trans ?_)
    exact (if_pos other).trans (bind_of_error failed)
  | loopTest word paren =>
    refine statement_of_error ((bareStatement_of_while word readAll).trans ?_)
    exact bind_of_error (condition_of_error paren failed)
  | loopBody word tested =>
    refine statement_of_error ((bareStatement_of_while word readAll).trans ?_)
    exact (bind_of_ok tested).trans (bind_of_error failed)
  | returned word valued =>
    refine statement_of_error ((bareStatement_of_return word readAll).trans ?_)
    exact (if_neg (by simp [valued])).trans (bind_of_error failed)
  | expression begins =>
    refine statement_of_error ((bareStatement_of_beginsExpression begins readAll).trans ?_)
    exact bind_of_error failed
  | firstOperand level ts => exact bind_of_error (operand_of_error failed)
  | afterOperand made => exact (bind_of_ok made).trans failed
  | nextOperand left mark =>
    show chain readAll _ left ts = _
    unfold chain
    rw [mark]
    exact bind_of_error (operand_of_error failed)
  | afterNext mark made fits =>
    show chain readAll _ _ ts = _
    unfold chain
    rw [mark]
    exact (bind_of_ok made).trans ((bind_of_ok (combine_ok_iff.2 ⟨fits, rfl⟩)).trans failed)
  | underSign sign =>
    show unary readAll ts = _
    unfold unary
    rw [sign]
    exact bind_of_error failed
  | grouped paren =>
    refine (unary_of_primary (by rw [paren]; rfl)).trans ?_
    exact (primary_of_paren paren).trans (bind_of_error failed)
  | declared name listed =>
    refine (unary_of_primary (by rw [name]; rfl)).trans ((primary_of_name name).trans ?_)
    unfold named
    rw [listed]
    exact bind_of_error (bind_of_error failed)
  | called name call paren given =>
    refine (unary_of_primary (by rw [name]; rfl)).trans ((primary_of_name name).trans ?_)
    unfold named
    rw [call]
    exact (if_pos paren).trans (bind_of_error ((if_neg given).trans failed))
  | firstArgument ts => exact bind_of_error failed
  | nextArguments made comma =>
    exact (bind_of_ok made).trans ((if_pos comma).trans (bind_of_error failed))

/-- A fault of a phrase that is reached is the fault of the program. -/
theorem error_of_reached (reached : Reached all phrase ts)
    (failed : readAll phrase ts = .error fault) : readAll .program all = .error fault := by
  induction reached with
  | start => exact failed
  | step before reads ih => exact ih (error_of_reads reads failed)

end Grammar
end Scriptlet
