import Scriptlet.Proofs.Grammar.Fixpoint

/-
  What is true at every node of a program that has been read.
  A condition on single nodes holds everywhere in a tree if it holds of the tree and of all that is
  inside it, bodies of declared functions included. Main statement: everywhere in a program read
  from tokens, a literal is the literal of a token, a name is the text of one, the operands of an
  equality fit together, and a declaration is marked for what its body does (`readAll_sourced`).
-/

namespace Scriptlet

/-- A condition on single expressions and single statements. -/
structure Condition where
  expr : Expr → Prop
  stmt : Stmt → Prop

mutual

/-- The condition holds of an expression and of everything inside it. -/
def Expr.Everywhere (c : Condition) : Expr → Prop
  | .literal value span => c.expr (.literal value span)
  | .variable name span => c.expr (.variable name span)
  | .binary op left right span =>
    c.expr (.binary op left right span) ∧ left.Everywhere c ∧ right.Everywhere c
  | .unary op operand span => c.expr (.unary op operand span) ∧ operand.Everywhere c
  | .call name args span => c.expr (.call name args span) ∧ argsEverywhere c args
  | .function declaration span => c.expr (.function declaration span) ∧ declaration.Everywhere c

/-- The condition holds of the arguments and of everything inside them. -/
def argsEverywhere (c : Condition) : List Expr → Prop
  | [] => True
  | e :: rest => e.Everywhere c ∧ argsEverywhere c rest

/-- The condition holds of a statement and of everything inside it. -/
def Stmt.Everywhere (c : Condition) : Stmt → Prop
  | .variable name value span => c.stmt (.variable name value span) ∧ value.Everywhere c
  | .assign name value span => c.stmt (.assign name value span) ∧ value.Everywhere c
  | .branch test thenBody none span =>
    c.stmt (.branch test thenBody none span) ∧ test.Everywhere c ∧ bodyEverywhere c thenBody
  | .branch test thenBody (some elseBody) span =>
    c.stmt (.branch test thenBody (some elseBody) span) ∧ test.Everywhere c ∧
      bodyEverywhere c thenBody ∧ bodyEverywhere c elseBody
  | .loop test body span =>
    c.stmt (.loop test body span) ∧ test.Everywhere c ∧ bodyEverywhere c body
  | .result none span => c.stmt (.result none span)
  | .result (some value) span => c.stmt (.result (some value) span) ∧ value.Everywhere c
  | .jump jump span => c.stmt (.jump jump span)
  | .expr value span => c.stmt (.expr value span) ∧ value.Everywhere c

/-- The condition holds of the statements and of everything inside them. -/
def bodyEverywhere (c : Condition) : List Stmt → Prop
  | [] => True
  | s :: rest => s.Everywhere c ∧ bodyEverywhere c rest

/-- The condition holds everywhere in the body of a declaration. -/
def Declaration.Everywhere (c : Condition) : Declaration → Prop
  | ⟨_, _, body, _, _⟩ => bodyEverywhere c body

end

theorem Declaration.Everywhere.body {c : Condition} :
    ∀ {d : Declaration}, d.Everywhere c → bodyEverywhere c d.body
  | ⟨_, _, _, _, _⟩, h => h

/-- One condition implies the other at each node. -/
structure Condition.Implies (c d : Condition) : Prop where
  expr : ∀ e, c.expr e → d.expr e
  stmt : ∀ s, c.stmt s → d.stmt s

mutual

theorem Expr.Everywhere.mono {c d : Condition} (le : c.Implies d) :
    ∀ e : Expr, e.Everywhere c → e.Everywhere d
  | .literal _ _, h => le.expr _ h
  | .variable _ _, h => le.expr _ h
  | .binary _ left right _, h => ⟨le.expr _ h.1, Expr.Everywhere.mono le left h.2.1,
    Expr.Everywhere.mono le right h.2.2⟩
  | .unary _ operand _, h => ⟨le.expr _ h.1, Expr.Everywhere.mono le operand h.2⟩
  | .call _ args _, h => ⟨le.expr _ h.1, argsEverywhere_mono le args h.2⟩
  | .function declaration _, h => ⟨le.expr _ h.1, declaration.everywhere_mono le h.2⟩

theorem argsEverywhere_mono {c d : Condition} (le : c.Implies d) :
    ∀ args : List Expr, argsEverywhere c args → argsEverywhere d args
  | [], _ => trivial
  | e :: rest, h => ⟨Expr.Everywhere.mono le e h.1, argsEverywhere_mono le rest h.2⟩

theorem Stmt.Everywhere.mono {c d : Condition} (le : c.Implies d) :
    ∀ s : Stmt, s.Everywhere c → s.Everywhere d
  | .variable _ value _, h => ⟨le.stmt _ h.1, Expr.Everywhere.mono le value h.2⟩
  | .assign _ value _, h => ⟨le.stmt _ h.1, Expr.Everywhere.mono le value h.2⟩
  | .branch test thenBody none _, h =>
    ⟨le.stmt _ h.1, Expr.Everywhere.mono le test h.2.1, bodyEverywhere_mono le thenBody h.2.2⟩
  | .branch test thenBody (some elseBody) _, h =>
    ⟨le.stmt _ h.1, Expr.Everywhere.mono le test h.2.1, bodyEverywhere_mono le thenBody h.2.2.1,
      bodyEverywhere_mono le elseBody h.2.2.2⟩
  | .loop test body _, h =>
    ⟨le.stmt _ h.1, Expr.Everywhere.mono le test h.2.1, bodyEverywhere_mono le body h.2.2⟩
  | .result none _, h => le.stmt _ h
  | .result (some value) _, h => ⟨le.stmt _ h.1, Expr.Everywhere.mono le value h.2⟩
  | .jump _ _, h => le.stmt _ h
  | .expr value _, h => ⟨le.stmt _ h.1, Expr.Everywhere.mono le value h.2⟩

/-- What holds everywhere in a body may be weakened at each node. -/
theorem bodyEverywhere_mono {c d : Condition} (le : c.Implies d) :
    ∀ body : List Stmt, bodyEverywhere c body → bodyEverywhere d body
  | [], _ => trivial
  | s :: rest, h => ⟨Stmt.Everywhere.mono le s h.1, bodyEverywhere_mono le rest h.2⟩

theorem Declaration.everywhere_mono {c d : Condition} (le : c.Implies d) :
    ∀ f : Declaration, f.Everywhere c → f.Everywhere d
  | ⟨_, _, body, _, _⟩, h => bodyEverywhere_mono le body h

end

/-- The condition that holds of every node. -/
def Condition.any : Condition :=
  ⟨fun _ => True, fun _ => True⟩

mutual

theorem Expr.everywhere_of_all {c : Condition} (expr : ∀ e, c.expr e) (stmt : ∀ s, c.stmt s) :
    ∀ e : Expr, e.Everywhere c
  | .literal _ _ => expr _
  | .variable _ _ => expr _
  | .binary _ left right _ =>
    ⟨expr _, left.everywhere_of_all expr stmt, right.everywhere_of_all expr stmt⟩
  | .unary _ operand _ => ⟨expr _, operand.everywhere_of_all expr stmt⟩
  | .call _ args _ => ⟨expr _, argsEverywhere_of_all expr stmt args⟩
  | .function declaration _ => ⟨expr _, declaration.everywhere_of_all expr stmt⟩

theorem argsEverywhere_of_all {c : Condition} (expr : ∀ e, c.expr e) (stmt : ∀ s, c.stmt s) :
    ∀ args : List Expr, argsEverywhere c args
  | [] => trivial
  | e :: rest => ⟨e.everywhere_of_all expr stmt, argsEverywhere_of_all expr stmt rest⟩

theorem Stmt.everywhere_of_all {c : Condition} (expr : ∀ e, c.expr e) (stmt : ∀ s, c.stmt s) :
    ∀ s : Stmt, s.Everywhere c
  | .variable _ value _ => ⟨stmt _, value.everywhere_of_all expr stmt⟩
  | .assign _ value _ => ⟨stmt _, value.everywhere_of_all expr stmt⟩
  | .branch test thenBody none _ => ⟨stmt _, test.everywhere_of_all expr stmt,
    bodyEverywhere_of_all expr stmt thenBody⟩
  | .branch test thenBody (some elseBody) _ => ⟨stmt _, test.everywhere_of_all expr stmt,
    bodyEverywhere_of_all expr stmt thenBody, bodyEverywhere_of_all expr stmt elseBody⟩
  | .loop test body _ => ⟨stmt _, test.everywhere_of_all expr stmt,
    bodyEverywhere_of_all expr stmt body⟩
  | .result none _ => stmt _
  | .result (some value) _ => ⟨stmt _, value.everywhere_of_all expr stmt⟩
  | .jump _ _ => stmt _
  | .expr value _ => ⟨stmt _, value.everywhere_of_all expr stmt⟩

/-- What is true of every node holds everywhere in every body. -/
theorem bodyEverywhere_of_all {c : Condition} (expr : ∀ e, c.expr e) (stmt : ∀ s, c.stmt s) :
    ∀ body : List Stmt, bodyEverywhere c body
  | [] => trivial
  | s :: rest => ⟨s.everywhere_of_all expr stmt, bodyEverywhere_of_all expr stmt rest⟩

theorem Declaration.everywhere_of_all {c : Condition} (expr : ∀ e, c.expr e)
    (stmt : ∀ s, c.stmt s) : ∀ d : Declaration, d.Everywhere c
  | ⟨_, _, body, _, _⟩ => bodyEverywhere_of_all expr stmt body

end

/-! ## What tokens give -/

/-- All the tokens are of the given sort. -/
def AllTokens (sort : Token → Prop) (ts : List Token) : Prop :=
  ∀ t ∈ ts, sort t

/-- The name is the text of an identifier of the given sort. -/
def NamedBy (sort : Token → Prop) (name : String) : Prop :=
  ∃ t, sort t ∧ t.kind = .identifier ∧ t.lexeme = name

/-- What an expression read from tokens of the given sort has at its head. -/
def Expr.FromTokens (sort : Token → Prop) : Expr → Prop
  | .literal value _ => ∃ t, sort t ∧ Grammar.literal? t = .ok value
  | .variable name _ => NamedBy sort name
  | .binary op left right _ => Grammar.Comparable op left right
  | .unary _ _ _ => True
  | .call name _ _ => NamedBy sort name
  | .function ⟨name, params, body, hasReturn, _⟩ _ =>
    NamedBy sort name ∧ (∀ param ∈ params, NamedBy sort param) ∧ hasReturn = anyReturns body

/-- What a statement read from tokens of the given sort has at its head. -/
def Stmt.FromTokens (sort : Token → Prop) : Stmt → Prop
  | .variable name _ _ => NamedBy sort name
  | .assign name _ _ => NamedBy sort name
  | _ => True

/-- What each node read from tokens of the given sort is like. -/
def fromTokens (sort : Token → Prop) : Condition :=
  ⟨Expr.FromTokens sort, Stmt.FromTokens sort⟩

/-- What is read from a phrase comes from tokens of the given sort everywhere; with a left operand,
if that does. -/
def Phrase.FromTokens (sort : Token → Prop) : (phrase : Phrase) → phrase.Result → Prop
  | .program, stmts => bodyEverywhere (fromTokens sort) stmts
  | .body, stmts => bodyEverywhere (fromTokens sort) stmts
  | .block, (stmts, _) => bodyEverywhere (fromTokens sort) stmts
  | .statement, s => s.Everywhere (fromTokens sort)
  | .operation _, e => e.Everywhere (fromTokens sort)
  | .chain _ left, e => left.Everywhere (fromTokens sort) → e.Everywhere (fromTokens sort)
  | .unary, e => e.Everywhere (fromTokens sort)
  | .arguments, args => argsEverywhere (fromTokens sort) args

namespace Grammar

variable {sort : Token → Prop} {read : Readers} {ts rest : List Token} {level : Level} {e : Expr}
  {s : Stmt}

/-- Whatever a reader reads comes from the tokens it is given. -/
def Sourced (sort : Token → Prop) (read : Readers) : Prop :=
  ∀ (phrase : Phrase) (ts : List Token) (r : phrase.Result) (rest : List Token),
    AllTokens sort ts → read phrase ts = .ok (r, rest) → phrase.FromTokens sort r

theorem allTokens_suffix (all : AllTokens sort ts) (h : rest <:+ ts) : AllTokens sort rest :=
  fun t mem => all t (h.subset mem)

theorem allTokens_tail (all : AllTokens sort ts) : AllTokens sort ts.tail :=
  allTokens_suffix all (List.tail_suffix ts)

theorem sort_next {kind : TokenKind} (all : AllTokens sort ts) (h : nextKind ts = kind)
    (ne : kind ≠ .endOfInput) : sort (next ts) := by
  obtain ⟨t, more, rfl, -⟩ := exists_cons_of_nextKind h ne
  exact all t List.mem_cons_self

theorem namedBy_next (all : AllTokens sort ts) (h : nextKind ts = .identifier) :
    NamedBy sort (next ts).lexeme :=
  ⟨next ts, sort_next all h (by decide), h, rfl⟩

theorem moreParams?_namedBy {names : List String} (all : AllTokens sort ts)
    (h : moreParams? ts = some (names, rest)) : ∀ name ∈ names, NamedBy sort name := by
  fun_induction moreParams? ts generalizing names with
  | case1 => cases h
  | case2 name mark ts kind =>
    cases h
    intro x mem
    rw [List.mem_singleton.1 mem]
    exact ⟨name, all name List.mem_cons_self, Decidable.not_not.1 kind, rfl⟩
  | case3 name mark ts kind _ _ ih =>
    obtain ⟨⟨names', rest'⟩, hm, made⟩ := Option.map_eq_some_iff.1 h
    cases made
    intro x mem
    rcases List.mem_cons.1 mem with rfl | mem
    · exact ⟨name, all name List.mem_cons_self, Decidable.not_not.1 kind, rfl⟩
    · exact ih (allTokens_tail (allTokens_tail all)) hm x mem
  | case4 => cases h
  | case5 => cases h

theorem params?_namedBy {names : List String} (all : AllTokens sort ts)
    (h : params? ts = some (names, rest)) : ∀ name ∈ names, NamedBy sort name := by
  rcases params?_eq_some_iff.1 h with ⟨-, -, ⟨-, rfl, -⟩ | ⟨-, hm⟩⟩
  · intro name mem
    cases mem
  · exact moreParams?_namedBy (allTokens_tail all) hm

/-! ## One phrase inside -/

section

variable (h : Sourced sort read) (all : AllTokens sort ts)
include h all

theorem operand_sourced (made : operand read level ts = .ok (e, rest)) :
    e.Everywhere (fromTokens sort) := by
  cases level with
  | disjunction => exact h (.operation .conjunction) _ _ _ all made
  | conjunction => exact h (.operation .comparison) _ _ _ all made
  | comparison => exact h (.operation .sum) _ _ _ all made
  | sum => exact h (.operation .product) _ _ _ all made
  | product => exact h .unary _ _ _ all made

theorem braces_sourced {body : List Stmt} {span : Span}
    (made : braces read ts = .ok ((body, span), rest)) : bodyEverywhere (fromTokens sort) body := by
  obtain ⟨mid, hb, -, -, -⟩ := braces_ok_iff.1 made
  exact h .body _ _ _ (allTokens_tail all) hb

theorem declaration_sourced {name : Token} {params : List String}
    (named : NamedBy sort name.lexeme) (names : ∀ param ∈ params, NamedBy sort param)
    (made : declaration read name params ts = .ok (e, rest)) :
    e.Everywhere (fromTokens sort) := by
  obtain ⟨body, bodySpan, hb, rfl⟩ := declaration_ok_iff.1 made
  exact ⟨⟨named, names, rfl⟩, braces_sourced h all hb⟩

theorem call_sourced {name : Token} (named : NamedBy sort name.lexeme)
    (made : call read name ts = .ok (e, rest)) : e.Everywhere (fromTokens sort) := by
  obtain ⟨args, mid, ha, -, rfl, -⟩ := call_ok_iff.1 made
  refine ⟨named, ?_⟩
  rcases callArguments_ok_iff.1 ha with ⟨-, rfl, -⟩ | ⟨-, ha⟩
  · exact trivial
  · exact h .arguments _ _ _ all ha

theorem condition_sourced {wanted : Wanted} (made : condition read wanted ts = .ok (e, rest)) :
    e.Everywhere (fromTokens sort) := by
  obtain ⟨-, mid, he, -, -⟩ := condition_ok_iff.1 made
  exact h .expression _ _ _ (allTokens_tail all) he

theorem newVariable_sourced {start : Token} (made : newVariable read start ts = .ok (s, rest)) :
    s.Everywhere (fromTokens sort) := by
  obtain ⟨name, -, value, hv, rfl⟩ := newVariable_ok_iff.1 made
  exact ⟨namedBy_next all name, h .expression _ _ _ (allTokens_tail (allTokens_tail all)) hv⟩

theorem assignment_sourced {name : Token} (named : NamedBy sort name.lexeme)
    (made : assignment read name ts = .ok (s, rest)) : s.Everywhere (fromTokens sort) := by
  obtain ⟨value, hv, rfl⟩ := assignment_ok_iff.1 made
  exact ⟨named, h .expression _ _ _ (allTokens_tail all) hv⟩

theorem block_sourced {body : List Stmt} {span : Span}
    (made : block read ts = .ok ((body, span), rest)) : bodyEverywhere (fromTokens sort) body := by
  rcases block_ok_iff.1 made with ⟨-, hb⟩ | ⟨-, s, hs, rfl, -⟩
  · exact braces_sourced h all hb
  · exact ⟨h .statement _ _ _ all hs, trivial⟩

theorem result_sourced {start : Token} (made : result read start ts = .ok (s, rest)) :
    s.Everywhere (fromTokens sort) := by
  rcases result_ok_iff.1 made with ⟨-, rfl, -⟩ | ⟨-, value, hv, rfl⟩
  · exact trivial
  · exact ⟨trivial, h .expression _ _ _ all hv⟩

theorem expressionStatement_sourced (made : expressionStatement read ts = .ok (s, rest)) :
    s.Everywhere (fromTokens sort) := by
  obtain ⟨value, hv, rfl⟩ := expressionStatement_ok_iff.1 made
  exact ⟨trivial, h .expression _ _ _ all hv⟩

theorem named_sourced {name : Token} (isNamed : NamedBy sort name.lexeme)
    (made : named read name ts = .ok (e, rest)) : e.Everywhere (fromTokens sort) := by
  rcases named_ok_iff.1 made with ⟨params, mid, hp, hd⟩ | ⟨-, -, hc⟩ | ⟨-, -, rfl, -⟩
  · have later := allTokens_suffix all (params?_ahead hp).1
    exact declaration_sourced h later isNamed (params?_namedBy all hp) hd
  · exact call_sourced h (allTokens_tail all) isNamed hc
  · exact isNamed

theorem primary_sourced (made : primary read ts = .ok (e, rest)) :
    e.Everywhere (fromTokens sort) := by
  rcases primary_ok_iff.1 made with ⟨-, mid, he, -, -⟩ | ⟨name, hn⟩ | ⟨-, -, v, hv, rfl, -⟩
  · exact h .expression _ _ _ (allTokens_tail all) he
  · exact named_sourced h (allTokens_tail all) (namedBy_next all name) hn
  · exact ⟨next ts, sort_next all rfl (nextKind_ne_of_literal? hv), hv⟩

theorem unary_sourced (made : unary read ts = .ok (e, rest)) :
    e.Everywhere (fromTokens sort) := by
  rcases unary_ok_iff.1 made with ⟨op, operand, -, ho, rfl⟩ | ⟨-, hp⟩
  · exact ⟨trivial, h .unary _ _ _ (allTokens_tail all) ho⟩
  · exact primary_sourced h all hp

end

/-! ## Several phrases inside -/

section

variable (ahead : Advancing read) (h : Sourced sort read) (all : AllTokens sort ts)
include ahead h all

theorem operation_sourced (made : operation read level ts = .ok (e, rest)) :
    e.Everywhere (fromTokens sort) := by
  obtain ⟨left, mid, ho, hc⟩ := operation_ok_iff.1 made
  have later := allTokens_suffix all (operand_ahead ahead ho).1
  exact h (.chain level left) _ _ _ later hc (operand_sourced h all ho)

theorem chain_sourced {left : Expr} (made : chain read level left ts = .ok (e, rest))
    (before : left.Everywhere (fromTokens sort)) : e.Everywhere (fromTokens sort) := by
  rcases chain_ok_iff.1 made with ⟨-, rfl, -⟩ | ⟨op, right, mid, -, ho, fits, hc⟩
  · exact before
  · have inner := operand_sourced h (allTokens_tail all) ho
    have later := allTokens_suffix (allTokens_tail all) (operand_ahead ahead ho).1
    refine h (.chain level _) _ _ _ later hc ?_
    exact ⟨fits, before, inner⟩

theorem arguments_sourced {args : List Expr} (made : arguments read ts = .ok (args, rest)) :
    argsEverywhere (fromTokens sort) args := by
  rcases arguments_ok_iff.1 made with ⟨e, mid, he, ⟨-, rfl, -⟩ | ⟨-, more, hm, rfl⟩⟩
  · exact ⟨h .expression _ _ _ all he, trivial⟩
  · have later := allTokens_suffix all (expression_ahead ahead he).1
    exact ⟨h .expression _ _ _ all he, h .arguments _ _ _ (allTokens_tail later) hm⟩

theorem branch_sourced {start : Token} (made : branch read start ts = .ok (s, rest)) :
    s.Everywhere (fromTokens sort) := by
  obtain ⟨test, mid, thenBody, span, after, ht, hb, last⟩ := branch_ok_iff.1 made
  have later := allTokens_suffix all (condition_ahead ahead ht).1
  have tested := condition_sourced h all ht
  have thenMade := h .block _ _ _ later hb
  rcases last with ⟨-, -, rfl⟩ | ⟨-, elseBody, elseSpan, he, rfl⟩
  · exact ⟨trivial, tested, thenMade⟩
  · have last := allTokens_suffix later (ahead .block _ _ _ hb).1
    exact ⟨trivial, tested, thenMade, h .block _ _ _ (allTokens_tail last) he⟩

theorem loop_sourced {start : Token} (made : loop read start ts = .ok (s, rest)) :
    s.Everywhere (fromTokens sort) := by
  obtain ⟨test, mid, body, span, ht, hb, rfl⟩ := loop_ok_iff.1 made
  have later := allTokens_suffix all (condition_ahead ahead ht).1
  exact ⟨trivial, condition_sourced h all ht, h .block _ _ _ later hb⟩

theorem bareStatement_sourced (made : bareStatement read ts = .ok (s, rest)) :
    s.Everywhere (fromTokens sort) := by
  have later := allTokens_tail all
  obtain ⟨-, eq⟩ | ⟨-, eq⟩ | ⟨-, eq⟩ | ⟨-, eq⟩ | ⟨-, eq⟩ | ⟨-, eq⟩ | ⟨name, -, eq⟩ | ⟨-, eq⟩ :=
    bareStatement_forms ts <;> rw [eq] at made
  · exact newVariable_sourced h later made
  · exact branch_sourced ahead h later made
  · exact loop_sourced ahead h later made
  · exact result_sourced h later made
  · cases made
    exact trivial
  · cases made
    exact trivial
  · exact assignment_sourced h later (namedBy_next all name) made
  · exact expressionStatement_sourced h all made

theorem statement_sourced (made : statement read ts = .ok (s, rest)) :
    s.Everywhere (fromTokens sort) := by
  obtain ⟨mid, hs, -⟩ := statement_ok_iff.1 made
  exact bareStatement_sourced ahead h all hs

theorem body_sourced {body : List Stmt} (made : Grammar.body read ts = .ok (body, rest)) :
    bodyEverywhere (fromTokens sort) body := by
  rcases body_ok_iff.1 made with ⟨-, rfl, -⟩ | ⟨-, s, mid, more, hs, hm, rfl⟩
  · exact trivial
  · have later := allTokens_suffix all (ahead .statement _ _ _ hs).1
    exact ⟨h .statement _ _ _ all hs, h .body _ _ _ later hm⟩

theorem program_sourced {body : List Stmt} (made : program read ts = .ok (body, rest)) :
    bodyEverywhere (fromTokens sort) body := by
  rcases program_ok_iff.1 made with ⟨-, rfl, -⟩ | ⟨-, s, mid, more, hs, hm, rfl⟩
  · exact trivial
  · have later := allTokens_suffix all (ahead .statement _ _ _ hs).1
    exact ⟨h .statement _ _ _ all hs, h .program _ _ _ later hm⟩

end

theorem produce_sourced (ahead : Advancing read) (h : Sourced sort read) :
    Sourced sort (produce read) := by
  intro phrase ts r rest all made
  cases phrase with
  | program => exact program_sourced ahead h all made
  | body => exact body_sourced ahead h all made
  | block => exact block_sourced h all made
  | statement => exact statement_sourced ahead h all made
  | operation level => exact operation_sourced ahead h all made
  | chain level left => exact chain_sourced ahead h all made
  | unary => exact unary_sourced h all made
  | arguments => exact arguments_sourced ahead h all made

/-! ## All phrases -/

theorem read_sourced (sort : Token → Prop) (fuel : Nat) : Sourced sort (Grammar.read fuel) := by
  induction fuel with
  | zero => intro phrase ts r rest all made; cases made
  | succ fuel ih => exact produce_sourced (read_advances fuel) ih

/-- Whatever is read from tokens of a sort comes from such tokens everywhere. -/
theorem readAll_sourced (sort : Token → Prop) : Sourced sort readAll := by
  intro phrase ts r rest all made
  exact read_sourced sort _ phrase ts r rest all made

end Grammar

namespace Program

open Grammar (readAll)

theorem exists_of_isOk {ε α : Type} {r : Except ε α} (h : r.isOk = true) : ∃ a, r = .ok a := by
  cases r with
  | error e => cases h
  | ok a => exact ⟨a, rfl⟩

theorem ofTokens_ok_iff {ts : List Token} {p : Program} :
    ofTokens ts = .ok p ↔ ∃ rest, readAll .program ts = .ok (p.statements, rest) := by
  unfold ofTokens
  constructor
  · intro made
    obtain ⟨⟨statements, rest⟩, read, rfl⟩ := Rule.map_ok_iff.1 made
    exact ⟨rest, read⟩
  · rintro ⟨rest, read⟩
    exact congrArg (Except.map _) read

/-- A source is a program if its tokens are read as the statements of it. -/
theorem parse_ok_iff {source : String} {p : Program} :
    parse source = .ok p ↔ ∃ ts rest, Token.tokenize source = .ok ts ∧
      readAll .program ts = .ok (p.statements, rest) := by
  unfold parse
  constructor
  · intro made
    split at made
    next => cases made
    next ts tokens =>
      split at made
      next => cases made
      next program read =>
        cases made
        obtain ⟨rest, read⟩ := ofTokens_ok_iff.1 read
        exact ⟨ts, rest, tokens, read⟩
  · rintro ⟨ts, rest, tokens, read⟩
    rw [tokens]
    dsimp only
    rw [ofTokens_ok_iff.2 ⟨rest, read⟩]

theorem everywhere_any {source : String} {p : Program} (_ : parse source = .ok p) :
    bodyEverywhere .any p.statements :=
  bodyEverywhere_of_all (fun _ => trivial) (fun _ => trivial) p.statements

/-- Everywhere in a program read from a source there is what the tokens of the source give. -/
theorem fromTokens_of_parse {sort : Token → Prop} {source : String} {p : Program}
    (h : parse source = .ok p) (all : ∀ ts, Token.tokenize source = .ok ts → AllTokens sort ts) :
    bodyEverywhere (fromTokens sort) p.statements := by
  obtain ⟨ts, rest, tokens, read⟩ := parse_ok_iff.1 h
  exact Grammar.readAll_sourced sort .program ts _ _ (all ts tokens) read

end Program
end Scriptlet
