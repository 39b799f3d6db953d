import Scriptlet.Proofs.Printing.Opening
import Scriptlet.Proofs.Printing.Operand

/-
  How calls are read.
  Tokens are arguments if they are expressions with commas between them, wherever in a source they
  stand (`Arguments`). In parentheses after a name they are no parameter list, as long as no brace
  follows (`Arguments.params?_eq_none`). Main statement: `readsUnary_call`.
-/

namespace Scriptlet.Grammar

/-- The tokens are expressions with commas between them. -/
inductive Arguments : List Token → List Expr → Prop
  | empty : Arguments [] []
  | last {ts e} (opens : Opens ts) (reads : ReadsAt .disjunction ts e) : Arguments ts [e]
  | more {ts e comma others next es} (opens : Opens ts) (reads : ReadsAt .disjunction ts e)
    (mark : comma.kind = .comma) (later : Arguments others (next :: es)) :
    Arguments (ts ++ comma :: others) (e :: next :: es)

variable {ts rest mid : List Token} {e : Expr} {es : List Expr}

namespace Arguments

theorem nextKind_ne (h : Arguments ts (e :: es)) (more : List Token) {kind : TokenKind}
    (other : kind ∉ Wanted.operand.kinds) : nextKind (ts ++ more) ≠ kind := by
  cases h with
  | last opens reads => exact opens.nextKind_ne more other
  | more opens reads mark later =>
    rw [List.append_assoc]
    exact opens.nextKind_ne _ other

variable {closing : Token} (closes : closing.kind = .rightParen)
include closes

/-- Arguments are read up to the parenthesis that closes them. -/
theorem reads : ∀ {ts : List Token} {e : Expr} {es : List Expr}, Arguments ts (e :: es) →
    readAll .arguments (ts ++ closing :: rest) = .ok (e :: es, closing :: rest)
  | _, e, _, .last opens first => by
    have ends : Ends Level.disjunction.rank (nextKind (closing :: rest)) :=
      ends_of_mark _ _ (by show closing.kind ∈ _; rw [closes]; decide)
    refine (readAll_arguments _).trans (arguments_ok_iff.2 ⟨e, _, first.reads ends, .inl ?_⟩)
    refine ⟨fun comma => ?_, rfl, rfl⟩
    cases closes.symm.trans comma
  | _, e, _, @more _ _ comma others _ _ opens first mark later => by
    have ends : Ends Level.disjunction.rank (nextKind (comma :: (others ++ closing :: rest))) :=
      ends_of_mark _ _ (by show comma.kind ∈ _; rw [mark]; decide)
    rw [List.append_assoc, List.cons_append]
    refine (readAll_arguments _).trans (arguments_ok_iff.2 ⟨e, _, first.reads ends, .inr ?_⟩)
    exact ⟨mark, _, later.reads, rfl⟩

theorem callArguments (h : Arguments ts es) :
    callArguments readAll (ts ++ closing :: rest) = .ok (es, closing :: rest) := by
  cases es with
  | nil =>
    cases h
    exact callArguments_ok_iff.2 (.inl ⟨closes, rfl, rfl⟩)
  | cons e es =>
    have filled : nextKind (ts ++ closing :: rest) ≠ .rightParen := h.nextKind_ne _ (by decide)
    exact callArguments_ok_iff.2 (.inr ⟨filled, h.reads closes⟩)

/-- Arguments that are taken for parameters reach up to their closing parenthesis. -/
theorem eq_rest_of_moreParams? :
    ∀ {ts : List Token} {e : Expr} {es : List Expr} {names : List String},
    Arguments ts (e :: es) → moreParams? (ts ++ closing :: rest) = some (names, mid) → mid = rest
  | _, _, _, _, .last opens first, found => by
    rcases moreParams?_opens opens found with ⟨-, same⟩ | ⟨comma, -⟩
    · exact same
    · cases closes.symm.trans comma
  | _, _, _, _, .more opens first mark later, found => by
    rw [List.append_assoc] at found
    rcases moreParams?_opens opens found with ⟨close, -⟩ | ⟨-, names', more⟩
    · cases mark.symm.trans close
    · exact later.eq_rest_of_moreParams? more

/-- Arguments in parentheses are no parameter list if no brace follows. -/
theorem params?_eq_none (h : Arguments ts es) (opening : Token)
    (noBrace : nextKind rest ≠ .leftBrace) :
    params? (opening :: (ts ++ closing :: rest)) = none := by
  refine Option.eq_none_iff_forall_ne_some.2 fun ⟨names, mid⟩ found => ?_
  rcases params?_eq_some_iff.1 found with ⟨-, brace, ⟨close, -, same⟩ | ⟨filled, more⟩⟩
  · cases es with
    | nil =>
      cases h
      rw [same] at brace
      exact noBrace brace
    | cons e es => exact h.nextKind_ne _ (by decide) close
  · cases es with
    | nil =>
      cases h
      exact filled closes
    | cons e es =>
      rw [h.eq_rest_of_moreParams? closes more] at brace
      exact noBrace brace

end Arguments

/-- What is read from a name and what follows is what is read as an operand there. -/
theorem readAll_unary_name {name : Token} (isName : name.kind = .identifier)
    (h : named readAll name ts = .ok (e, rest)) : readAll .unary (name :: ts) = .ok (e, rest) := by
  have noMark : unaryOp? name.kind = none := by
    rw [isName]
    rfl
  refine (readAll_unary _).trans (unary_ok_iff.2 (.inr ⟨noMark, ?_⟩))
  exact primary_ok_iff.2 (.inr (.inl ⟨isName, h⟩))

theorem opens_call {name opening : Token} (isName : name.kind = .identifier)
    (opens : opening.kind = .leftParen) (ts : List Token) : Opens (name :: opening :: ts) := by
  refine ⟨name, _, rfl, ?_, fun _ => .inr ⟨opening, ts, rfl, ?_⟩⟩
  · rw [isName]
    decide
  · rw [opens]
    decide

/-- A name with arguments in parentheses is read as a call of it. -/
theorem readsUnary_call {name opening closing : Token} (isName : name.kind = .identifier)
    (opens : opening.kind = .leftParen) (closes : closing.kind = .rightParen)
    (h : Arguments ts es) : ReadsUnary (name :: opening :: (ts ++ [closing]))
      (.call name.lexeme es (name.span.through closing.span)) := by
  intro rest ends
  have noParams := h.params?_eq_none closes opening ends.2.1
  have made : callArguments readAll (ts ++ closing :: rest) = .ok (es, closing :: rest) :=
    h.callArguments closes
  simp only [List.cons_append, List.append_assoc, List.nil_append]
  refine readAll_unary_name isName (named_ok_iff.2 (.inr (.inl ⟨noParams, opens, ?_⟩)))
  exact call_ok_iff.2 ⟨es, _, made, closes, rfl, rfl⟩

end Scriptlet.Grammar
