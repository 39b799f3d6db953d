import Scriptlet.Proofs.Printing.Source

/-
  How written phrases begin.
  The first two tokens of a written phrase tell which of the alternatives for a name is read: a
  declaration, a call, an assignment or a variable. Main statement: a written parameter list is
  read before a brace (`params?_params`).
-/

namespace Scriptlet.Grammar

variable {style : Numerals} {ts rest : List Token}

/-! ## First tokens of expressions -/

/-- The tokens begin like an expression, and not like a parameter or an assignment unless they are
a single name. -/
def Opens (ts : List Token) : Prop :=
  ∃ t more, ts = t :: more ∧ t.kind ∈ Wanted.operand.kinds ∧
    (t.kind = .identifier → more = [] ∨
      ∃ u others, more = u :: others ∧ u.kind ∉ [TokenKind.comma, .rightParen, .equals])

theorem Opens.append (h : Opens ts) {mark : Token} (others : List Token)
    (joins : mark.kind ∉ [TokenKind.comma, .rightParen, .equals]) :
    Opens (ts ++ mark :: others) := by
  obtain ⟨t, more, rfl, begins, second⟩ := h
  refine ⟨t, more ++ mark :: others, rfl, begins, fun name => .inr ?_⟩
  rcases second name with rfl | ⟨u, tail, rfl, goesOn⟩
  · exact ⟨mark, others, rfl, joins⟩
  · exact ⟨u, tail ++ mark :: others, rfl, goesOn⟩

theorem Opens.enclosed (h : Opens ts) (loose : Bool) : Opens (enclosed loose ts) := by
  cases loose with
  | false => exact h
  | true =>
    exact ⟨TokenKind.leftParen.fixed, _, rfl, by decide, fun name => by cases name⟩

theorem opens_single {t : Token} (begins : t.kind ∈ Wanted.operand.kinds) : Opens [t] :=
  ⟨t, [], rfl, begins, fun _ => .inl rfl⟩

/-- A written expression begins like one. -/
theorem opens_tokens (style : Numerals) : ∀ e : Expr, Opens (e.tokens style)
  | .literal value _ => by
    rw [Expr.tokens]
    refine opens_single ?_
    cases value with
    | number x => exact (by decide : TokenKind.number ∈ Wanted.operand.kinds)
    | string s => exact (by decide : TokenKind.string ∈ Wanted.operand.kinds)
    | bool b =>
      cases b with
      | true => exact (by decide : TokenKind.trueWord ∈ Wanted.operand.kinds)
      | false => exact (by decide : TokenKind.falseWord ∈ Wanted.operand.kinds)
    | null => exact (by decide : TokenKind.nullWord ∈ Wanted.operand.kinds)
  | .variable name _ => by
    rw [Expr.tokens]
    exact opens_single (List.Mem.tail _ (List.Mem.head _))
  | .binary op left right _ => by
    rw [Expr.tokens]
    refine ((opens_tokens style left).enclosed _).append _ ?_
    cases op <;> decide
  | .unary op operand _ => by
    rw [Expr.tokens]
    refine ⟨op.kind.fixed, _, rfl, ?_, ?_⟩
    · cases op <;> decide
    · intro name
      cases op <;> cases name
  | .call name args _ => by
    rw [Expr.tokens]
    refine ⟨.name name, _, rfl, List.Mem.tail _ (List.Mem.head _), fun _ => .inr ?_⟩
    exact ⟨TokenKind.leftParen.fixed, _, rfl, by decide⟩
  | .function ⟨name, params, body, _, _⟩ _ => by
    rw [Expr.tokens, Declaration.tokens]
    refine ⟨.name name, _, rfl, List.Mem.tail _ (List.Mem.head _), fun _ => .inr ?_⟩
    exact ⟨TokenKind.leftParen.fixed, _, rfl, by decide⟩

/-- What begins like an expression does not begin with a mark of another phrase. -/
theorem Opens.nextKind_ne (h : Opens ts) (more : List Token) {kind : TokenKind}
    (other : kind ∉ Wanted.operand.kinds) : nextKind (ts ++ more) ≠ kind := by
  obtain ⟨t, others, rfl, begins, -⟩ := h
  rintro rfl
  exact other begins

/-! ## Names with a list after them -/

theorem moreParams?_params (rest : List Token) : ∀ (param : String) (params : List String),
    moreParams? (paramTokens (param :: params) ++ TokenKind.rightParen.fixed :: rest) =
      some (param :: params, rest)
  | param, [] => rfl
  | param, next :: params => by
    have more := moreParams?_params rest next params
    rw [paramTokens, List.cons_append, List.cons_append, moreParams?, more]
    rfl

/-- A written parameter list is read before a brace. -/
theorem params?_params (params : List String) (rest : List Token) :
    params? (TokenKind.leftParen.fixed :: (paramTokens params ++
      TokenKind.rightParen.fixed :: TokenKind.leftBrace.fixed :: rest)) =
        some (params, TokenKind.leftBrace.fixed :: rest) := by
  refine params?_eq_some_iff.2 ⟨rfl, rfl, ?_⟩
  cases params with
  | nil => exact .inl ⟨rfl, rfl, rfl⟩
  | cons param params =>
    refine .inr ⟨?_, moreParams?_params _ param params⟩
    cases params <;> exact fun close => by cases close

/-- An expression with a mark after it that is taken for a parameter: the mark says what is left. -/
theorem moreParams?_opens {mark : Token} {tail mid : List Token} {names : List String}
    (h : Opens ts) (found : moreParams? (ts ++ mark :: tail) = some (names, mid)) :
    (mark.kind = .rightParen ∧ mid = tail) ∨
      (mark.kind = .comma ∧ ∃ names', moreParams? tail = some (names', mid)) := by
  obtain ⟨t, more, rfl, -, second⟩ := h
  have name : t.kind = .identifier := by
    refine Decidable.byContradiction fun other => ?_
    cases more <;> rw [List.cons_append] at found <;>
      simp [moreParams?, other] at found
  rcases second name with rfl | ⟨u, others, rfl, goesOn⟩
  · simp only [List.singleton_append, moreParams?, name, ne_eq, not_true_eq_false,
      if_false] at found
    split at found
    next close =>
      cases found
      exact .inl ⟨close, rfl⟩
    next =>
      split at found
      next comma =>
        obtain ⟨⟨names', mid'⟩, more, made⟩ := Option.map_eq_some_iff.1 found
        cases made
        exact .inr ⟨comma, names', more⟩
      next => cases found
  · have notClose : u.kind ≠ .rightParen := by
      intro close
      exact goesOn (by simp [close])
    have notComma : u.kind ≠ .comma := by
      intro comma
      exact goesOn (by simp [comma])
    simp [moreParams?, name, notClose, notComma] at found

end Scriptlet.Grammar
