import Scriptlet.Proofs.Grammar.Productions

/-
  Reading goes forward.
  The tokens that a phrase leaves are the end of those it was given, and every phrase but a list of
  statements and what follows a left operand takes at least one token (`read_advances`).
-/

namespace Scriptlet

/-- `rest` is what is left of `ts` when at least one token is taken. -/
def Ahead (ts rest : List Token) : Prop :=
  rest <:+ ts ∧ rest.length < ts.length

theorem Ahead.trans {ts mid rest : List Token} (h : Ahead ts mid) (h' : Ahead mid rest) :
    Ahead ts rest :=
  ⟨List.IsSuffix.trans h'.1 h.1, Nat.lt_trans h'.2 h.2⟩

theorem Ahead.trans_suffix {ts mid rest : List Token} (h : Ahead ts mid) (h' : rest <:+ mid) :
    Ahead ts rest :=
  ⟨List.IsSuffix.trans h' h.1, Nat.lt_of_le_of_lt h'.length_le h.2⟩

theorem ahead_tail {ts : List Token} {kind : TokenKind} (h : Grammar.nextKind ts = kind)
    (ne : kind ≠ .endOfInput) : Ahead ts ts.tail := by
  obtain ⟨t, more, rfl, -⟩ := Grammar.exists_cons_of_nextKind h ne
  exact ⟨List.suffix_cons t more, Nat.lt_succ_self _⟩

namespace Phrase

/-- Whether a phrase has at least one token. -/
def Takes : Phrase → Prop
  | .program | .body | .chain _ _ => False
  | _ => True

/-- Whether `rest` can be left of `ts` after a phrase. -/
def Advances (phrase : Phrase) (ts rest : List Token) : Prop :=
  rest <:+ ts ∧ (phrase.Takes → rest.length < ts.length)

end Phrase

namespace Grammar

variable {read : Readers} {ts rest : List Token} {level : Level} {e : Expr} {s : Stmt}

/-- A reader of every phrase that goes forward. -/
def Advancing (read : Readers) : Prop :=
  ∀ (phrase : Phrase) (ts : List Token) (r : phrase.Result) (rest : List Token),
    read phrase ts = .ok (r, rest) → phrase.Advances ts rest

/-! ## Parameter lists -/

theorem moreParams?_ahead {names : List String} (h : moreParams? ts = some (names, rest)) :
    Ahead ts rest := by
  have two : ∀ (name mark : Token) (ts : List Token), Ahead (name :: mark :: ts) ts := by
    intro name mark ts
    refine ⟨(List.suffix_cons mark ts).trans (List.suffix_cons name _), ?_⟩
    simp only [List.length_cons]
    omega
  fun_induction moreParams? ts generalizing names with
  | case1 => cases h
  | case2 name mark ts =>
    cases h
    exact two name mark rest
  | case3 name mark ts _ _ _ ih =>
    obtain ⟨⟨names', rest'⟩, hm, made⟩ := Option.map_eq_some_iff.1 h
    cases made
    exact (two name mark ts).trans (ih hm)
  | case4 => cases h
  | case5 => cases h

theorem params?_ahead {names : List String} (h : params? ts = some (names, rest)) :
    Ahead ts rest := by
  rcases params?_eq_some_iff.1 h with ⟨hp, -, ⟨hr, -, rfl⟩ | ⟨-, hm⟩⟩
  · exact (ahead_tail hp (by decide)).trans (ahead_tail hr (by decide))
  · exact (ahead_tail hp (by decide)).trans (moreParams?_ahead hm)

/-! ## Productions -/

section

variable (h : Advancing read)
include h

theorem expression_ahead {level : Level} (made : read (.operation level) ts = .ok (e, rest)) :
    Ahead ts rest :=
  ⟨(h _ _ _ _ made).1, (h _ _ _ _ made).2 trivial⟩

theorem operand_ahead (made : operand read level ts = .ok (e, rest)) : Ahead ts rest := by
  cases level with
  | disjunction => exact expression_ahead h made
  | conjunction => exact expression_ahead h made
  | comparison => exact expression_ahead h made
  | sum => exact expression_ahead h made
  | product => exact ⟨(h .unary _ _ _ made).1, (h .unary _ _ _ made).2 trivial⟩

theorem chain_suffix {left : Expr} (made : chain read level left ts = .ok (e, rest)) :
    rest <:+ ts := by
  rcases chain_ok_iff.1 made with ⟨-, -, rfl⟩ | ⟨op, right, mid, hop, ho, -, hc⟩
  · exact List.suffix_refl _
  · have step : mid <:+ ts := (operand_ahead h ho).1.trans (List.tail_suffix ts)
    exact (h _ _ _ _ hc).1.trans step

theorem braces_ahead {body : List Stmt} {span : Span} (opening : nextKind ts = .leftBrace)
    (made : braces read ts = .ok ((body, span), rest)) : Ahead ts rest := by
  obtain ⟨mid, hb, -, -, rfl⟩ := braces_ok_iff.1 made
  have inside : mid <:+ ts.tail := (h _ _ _ _ hb).1
  exact (ahead_tail opening (by decide)).trans_suffix ((List.tail_suffix mid).trans inside)

theorem call_suffix {name : Token} (made : call read name ts = .ok (e, rest)) : rest <:+ ts := by
  obtain ⟨args, mid, ha, -, -, rfl⟩ := call_ok_iff.1 made
  refine (List.tail_suffix mid).trans ?_
  rcases callArguments_ok_iff.1 ha with ⟨-, -, rfl⟩ | ⟨-, ha⟩
  · exact List.suffix_refl _
  · exact (h _ _ _ _ ha).1

theorem named_suffix {name : Token} (made : named read name ts = .ok (e, rest)) : rest <:+ ts := by
  rcases named_ok_iff.1 made with ⟨params, mid, hp, hd⟩ | ⟨-, -, hc⟩ | ⟨-, -, -, rfl⟩
  · obtain ⟨body, span, hb, -⟩ := declaration_ok_iff.1 hd
    have opening := (params?_eq_some_iff.1 hp).2.1
    exact (braces_ahead h opening hb).1.trans (params?_ahead hp).1
  · exact (call_suffix h hc).trans (List.tail_suffix ts)
  · exact List.suffix_refl _

omit h in
theorem nextKind_ne_of_literal? {v : Literal} (made : literal? (next ts) = .ok v) :
    nextKind ts ≠ .endOfInput := by
  intro ends
  unfold nextKind at ends
  unfold literal? at made
  rw [ends] at made
  cases made

theorem primary_ahead (made : primary read ts = .ok (e, rest)) : Ahead ts rest := by
  rcases primary_ok_iff.1 made with ⟨paren, mid, he, -, rfl⟩ | ⟨name, hn⟩ | ⟨-, -, v, hv, -, rfl⟩
  · have inside : mid.tail <:+ ts.tail := (List.tail_suffix mid).trans (expression_ahead h he).1
    exact (ahead_tail paren (by decide)).trans_suffix inside
  · exact (ahead_tail name (by decide)).trans_suffix (named_suffix h hn)
  · exact ahead_tail rfl (nextKind_ne_of_literal? hv)

theorem unary_ahead (made : unary read ts = .ok (e, rest)) : Ahead ts rest := by
  rcases unary_ok_iff.1 made with ⟨op, operand, hop, ho, -⟩ | ⟨-, hp⟩
  · have first := ahead_tail rfl (ne_endOfInput_of_unaryOp? hop)
    exact first.trans_suffix (h .unary _ _ _ ho).1
  · exact primary_ahead h hp

theorem arguments_ahead {args : List Expr} (made : arguments read ts = .ok (args, rest)) :
    Ahead ts rest := by
  rcases arguments_ok_iff.1 made with ⟨e, mid, he, ⟨-, -, rfl⟩ | ⟨-, more, hm, -⟩⟩
  · exact expression_ahead h he
  · exact (expression_ahead h he).trans_suffix ((h _ _ _ _ hm).1.trans (List.tail_suffix mid))

theorem condition_ahead {wanted : Wanted} (made : condition read wanted ts = .ok (e, rest)) :
    Ahead ts rest := by
  obtain ⟨paren, mid, he, -, rfl⟩ := condition_ok_iff.1 made
  have inside : mid.tail <:+ ts.tail := (List.tail_suffix mid).trans (expression_ahead h he).1
  exact (ahead_tail paren (by decide)).trans_suffix inside

theorem block_ahead {body : List Stmt} {span : Span}
    (made : block read ts = .ok ((body, span), rest)) : Ahead ts rest := by
  rcases block_ok_iff.1 made with ⟨opening, hb⟩ | ⟨-, s, hs, -⟩
  · exact braces_ahead h opening hb
  · exact ⟨(h .statement _ _ _ hs).1, (h .statement _ _ _ hs).2 trivial⟩

theorem branch_suffix {start : Token} (made : branch read start ts = .ok (s, rest)) :
    rest <:+ ts := by
  obtain ⟨test, mid, thenBody, span, after, ht, hb, last⟩ := branch_ok_iff.1 made
  have first : after <:+ ts := (h .block _ _ _ hb).1.trans (condition_ahead h ht).1
  rcases last with ⟨-, rfl, -⟩ | ⟨-, elseBody, elseSpan, he, -⟩
  · exact first
  · exact (h .block _ _ _ he).1.trans ((List.tail_suffix after).trans first)

theorem loop_suffix {start : Token} (made : loop read start ts = .ok (s, rest)) : rest <:+ ts := by
  obtain ⟨test, mid, body, span, ht, hb, -⟩ := loop_ok_iff.1 made
  exact (h .block _ _ _ hb).1.trans (condition_ahead h ht).1

theorem result_suffix {start : Token} (made : result read start ts = .ok (s, rest)) :
    rest <:+ ts := by
  rcases result_ok_iff.1 made with ⟨-, -, rfl⟩ | ⟨-, value, hv, -⟩
  · exact List.suffix_refl _
  · exact (expression_ahead h hv).1

theorem newVariable_suffix {start : Token} (made : newVariable read start ts = .ok (s, rest)) :
    rest <:+ ts := by
  obtain ⟨-, -, value, hv, -⟩ := newVariable_ok_iff.1 made
  exact (expression_ahead h hv).1.trans ((List.tail_suffix _).trans (List.tail_suffix ts))

theorem assignment_suffix {name : Token} (made : assignment read name ts = .ok (s, rest)) :
    rest <:+ ts := by
  obtain ⟨value, hv, -⟩ := assignment_ok_iff.1 made
  exact (expression_ahead h hv).1.trans (List.tail_suffix ts)

theorem expressionStatement_ahead (made : expressionStatement read ts = .ok (s, rest)) :
    Ahead ts rest := by
  obtain ⟨value, hv, -⟩ := expressionStatement_ok_iff.1 made
  exact expression_ahead h hv

theorem bareStatement_ahead (made : bareStatement read ts = .ok (s, rest)) : Ahead ts rest := by
  -- every statement but an expression begins with a token of its own
  have after : ∀ {kind : TokenKind}, nextKind ts = kind → kind ≠ .endOfInput →
      rest <:+ ts.tail → Ahead ts rest :=
    fun begins ne inside => (ahead_tail begins ne).trans_suffix inside
  obtain ⟨k, eq⟩ | ⟨k, eq⟩ | ⟨k, eq⟩ | ⟨k, eq⟩ | ⟨k, eq⟩ | ⟨k, eq⟩ | ⟨k, -, eq⟩ | ⟨-, eq⟩ :=
    bareStatement_forms ts <;> rw [eq] at made
  · exact after k (by decide) (newVariable_suffix h made)
  · exact after k (by decide) (branch_suffix h made)
  · exact after k (by decide) (loop_suffix h made)
  · exact after k (by decide) (result_suffix h made)
  · cases made
    exact ahead_tail k (by decide)
  · cases made
    exact ahead_tail k (by decide)
  · exact after k (by decide) (assignment_suffix h made)
  · exact expressionStatement_ahead h made

omit h in
theorem skipSemicolon_suffix (ts : List Token) : skipSemicolon ts <:+ ts := by
  unfold skipSemicolon
  split
  · exact List.tail_suffix ts
  · exact List.suffix_refl ts

theorem statement_ahead (made : statement read ts = .ok (s, rest)) : Ahead ts rest := by
  obtain ⟨mid, hs, rfl⟩ := statement_ok_iff.1 made
  exact (bareStatement_ahead h hs).trans_suffix (skipSemicolon_suffix mid)

theorem body_suffix {body : List Stmt} (made : Grammar.body read ts = .ok (body, rest)) :
    rest <:+ ts := by
  rcases body_ok_iff.1 made with ⟨-, -, rfl⟩ | ⟨-, s, mid, more, hs, hm, -⟩
  · exact List.suffix_refl _
  · exact (h .body _ _ _ hm).1.trans (h .statement _ _ _ hs).1

theorem program_suffix {body : List Stmt} (made : program read ts = .ok (body, rest)) :
    rest <:+ ts := by
  rcases program_ok_iff.1 made with ⟨-, -, rfl⟩ | ⟨-, s, mid, more, hs, hm, -⟩
  · exact List.suffix_refl _
  · exact (h .program _ _ _ hm).1.trans (h .statement _ _ _ hs).1

theorem produce_advancing : Advancing (produce read) := by
  intro phrase ts r rest made
  have strict : Ahead ts rest → phrase.Advances ts rest := fun ahead => ⟨ahead.1, fun _ => ahead.2⟩
  cases phrase with
  | program => exact ⟨program_suffix h made, False.elim⟩
  | body => exact ⟨body_suffix h made, False.elim⟩
  | block =>
    obtain ⟨body, span⟩ := r
    exact strict (block_ahead h made)
  | statement => exact strict (statement_ahead h made)
  | operation level =>
    obtain ⟨left, mid, ho, hc⟩ := operation_ok_iff.1 made
    exact strict ((operand_ahead h ho).trans_suffix (h _ _ _ _ hc).1)
  | chain level left => exact ⟨chain_suffix h made, False.elim⟩
  | unary => exact strict (unary_ahead h made)
  | arguments => exact strict (arguments_ahead h made)

end

/-- Whatever the fuel, an accepted phrase leaves an end of its tokens, and a shorter one if it
takes any. -/
theorem read_advances (fuel : Nat) : Advancing (Grammar.read fuel) := by
  induction fuel with
  | zero => intro phrase ts r rest made; cases made
  | succ fuel ih => exact produce_advancing ih

end Grammar
end Scriptlet
