import Scriptlet.Program.Grammar

/-
  Reading a program with a cursor.
  The tokens stay in one list and the reading moves an index over it, which may be set back: what
  begins with a name is tried as a declaration, then as a call, and the cursor is put where it was
  when that fails. A token is asked for by its index alone, and the reading stops if there is none.
  Each production is that of the grammar on lists, with the index for the tokens that are left.
-/

namespace Scriptlet

namespace Cursor

/-- Why a reading with a cursor has no result. -/
inductive Stop where
  | fault (fault : ParseFault)
  /-- There is no token at the index that was asked for. -/
  | outOfRange (index : Nat)
deriving DecidableEq

/-- Reads one kind of phrase from the token at the cursor on, and moves the cursor. -/
abbrev Scanner (α : Type) : Type := Nat → Except Stop (α × Nat)

/-- A scanner for every phrase. -/
abbrev Scanners : Type := (phrase : Phrase) → Scanner phrase.Result

/-- What needs no token, as a part of a reading. -/
def lift {α : Type} (o : Except ParseFault α) : Except Stop α :=
  o.mapError .fault

/-! ## Single tokens -/

section

variable (all : List Token)

/-- The token at an index. -/
def peek (i : Nat) : Except Stop Token :=
  match all[i]? with
  | some t => .ok t
  | none => .error (.outOfRange i)

/-- Takes the token at the cursor; the token of the end is not passed. -/
def advance : Scanner Token := fun i => do
  let t ← peek all i
  .ok (t, if t.kind = .endOfInput then i else i + 1)

/-- Takes a token of the given kind, if one comes next. -/
def skip (kind : TokenKind) : Scanner Bool := fun i => do
  let t ← peek all i
  if t.kind = kind then
    let (_, i) ← advance all i
    .ok (true, i)
  else .ok (false, i)

/-- Takes a token of the given kind. -/
def expect (kind : TokenKind) (wanted : Wanted) : Scanner Token := fun i => do
  let t ← peek all i
  if t.kind = kind then advance all i else .error (.fault (.unexpected wanted t))

/-! ## Names tried as declarations and calls -/

/-- Names with commas between them; nothing if something else stands for a name. -/
def names (i : Nat) : Except Stop (Option (List String) × Nat) :=
  match _here : all[i]? with
  | none => .error (.outOfRange i)
  | some name =>
    if name.kind ≠ .identifier then .ok (none, i)
    else
      match all[i + 1]? with
      | none => .error (.outOfRange (i + 1))
      | some mark =>
        if mark.kind = .comma then
          (names (i + 2)).map fun (more, i) => (more.map (name.lexeme :: ·), i)
        else .ok (some [name.lexeme], i + 1)
termination_by all.length - i
decreasing_by
  have inside := (List.getElem?_eq_some_iff.1 _here).1
  omega

/-- The names of a parameter list, up to the closing parenthesis if there is one. -/
def listed : Scanner (Option (List String)) := fun i => do
  let t ← peek all i
  if t.kind = .rightParen then .ok (some [], i) else names all i

/-- A parameter list in parentheses; without one the cursor is left where that was found out. -/
def parameterList : Scanner (Option (List String)) := fun i => do
  let (opened, i) ← skip all .leftParen i
  if opened then
    let (found, i) ← listed all i
    match found with
    | none => .ok (none, i)
    | some params =>
      let (closed, i) ← skip all .rightParen i
      .ok (if closed then some params else none, i)
  else .ok (none, i)

variable (read : Scanners)

/-- Statements in braces, and the span from brace to brace. -/
def braces : Scanner (List Stmt × Span) := fun i => do
  let (opening, i) ← advance all i
  let (body, i) ← read .body i
  let (closing, i) ← expect all .rightBrace .blockEnd i
  .ok ((body, opening.span.through closing.span), i)

/-- The declaration of the function `name` with a parameter list that has been read. -/
def declaration (name : Token) (params : List String) : Scanner Expr := fun i => do
  let ((body, bodySpan), i) ← braces all read i
  let span := name.span.through bodySpan
  .ok (.function ⟨name.lexeme, params, body, anyReturns body, span⟩ span, i)

/-- The declaration at the cursor. The cursor is set back if no parameter list follows the name, or
no brace the list. -/
def tryDeclaration : Scanner (Option Expr) := fun i => do
  let (name, after) ← advance all i
  let (found, after) ← parameterList all after
  match found with
  | none => .ok (none, i)
  | some params =>
    let t ← peek all after
    if t.kind = .leftBrace then
      let (e, after) ← declaration all read name params after
      .ok (some e, after)
    else .ok (none, i)

/-- The arguments of a call up to the closing parenthesis, which is left. -/
def callArguments : Scanner (List Expr) := fun i => do
  let t ← peek all i
  if t.kind = .rightParen then .ok ([], i) else read .arguments i

/-- The call of `name`; the opening parenthesis has been taken. -/
def call (name : Token) : Scanner Expr := fun i => do
  let (args, i) ← callArguments all read i
  let (closing, i) ← expect all .rightParen .argumentsEnd i
  .ok (.call name.lexeme args (name.span.through closing.span), i)

/-- The call at the cursor. Nothing is taken unless a parenthesis follows the name. -/
def tryCall : Scanner (Option Expr) := fun i => do
  let second ← peek all (i + 1)
  if second.kind = .leftParen then
    let (name, i) ← advance all i
    let (_, i) ← advance all i
    let (e, i) ← call all read name i
    .ok (some e, i)
  else .ok (none, i)

/-- What begins with a name: a declaration, else a call, and else a variable. -/
def named (name : Token) : Scanner Expr := fun i => do
  let (declared, i) ← tryDeclaration all read i
  match declared with
  | some e => .ok (e, i)
  | none =>
    let (called, i) ← tryCall all read i
    match called with
    | some e => .ok (e, i)
    | none =>
      let (_, i) ← advance all i
      .ok (.variable name.lexeme name.span, i)

/-! ## Expressions -/

/-- An operand of an operation of the given level. -/
def operand : Level → Scanner Expr
  | .disjunction => read (.operation .conjunction)
  | .conjunction => read (.operation .comparison)
  | .comparison => read (.operation .sum)
  | .sum => read (.operation .product)
  | .product => read .unary

/-- An operand and what follows it on its level. -/
def operation (level : Level) : Scanner Expr := fun i => do
  let (left, i) ← operand read level i
  read (.chain level left) i

/-- Operators of a level with their right operands, joined to `left` from left to right. -/
def chain (level : Level) (left : Expr) : Scanner Expr := fun i => do
  let t ← peek all i
  match level.operator? t.kind with
  | none => .ok (left, i)
  | some op =>
    let (_, i) ← advance all i
    let (right, i) ← operand read level i
    let whole ← lift (Grammar.combine op left right)
    read (.chain level whole) i

/-- An expression without an operator outside parentheses. -/
def primary : Scanner Expr := fun i => do
  let token ← peek all i
  match token.kind with
  | .leftParen =>
    let (_, i) ← advance all i
    let (inner, i) ← read .expression i
    let (_, i) ← expect all .rightParen .parenEnd i
    .ok (inner, i)
  | .identifier => named all read token i
  | _ =>
    let value ← lift (Grammar.literal? token)
    let (_, i) ← advance all i
    .ok (.literal value token.span, i)

/-- An operand with any number of operators before it. -/
def unary : Scanner Expr := fun i => do
  let t ← peek all i
  match Grammar.unaryOp? t.kind with
  | some op =>
    let (sign, i) ← advance all i
    let (operand, i) ← read .unary i
    .ok (.unary op operand (sign.span.through operand.span), i)
  | none => primary all read i

/-- One or more expressions with commas between them. -/
def arguments : Scanner (List Expr) := fun i => do
  let (e, i) ← read .expression i
  let (comma, i) ← skip all .comma i
  if comma then
    let (more, i) ← read .arguments i
    .ok (e :: more, i)
  else .ok ([e], i)

/-! ## Statements -/

/-- A variable with its first value. -/
def newVariable : Scanner Stmt := fun i => do
  let (start, i) ← advance all i
  let (name, i) ← expect all .identifier .variableName i
  let (_, i) ← expect all .equals .variableEquals i
  let (value, i) ← read .expression i
  .ok (.variable name.lexeme value (start.span.through value.span), i)

/-- A new value for a variable. -/
def assignment : Scanner Stmt := fun i => do
  let (name, i) ← advance all i
  let (_, i) ← advance all i
  let (value, i) ← read .expression i
  .ok (.assign name.lexeme value (name.span.through value.span), i)

/-- A condition in parentheses. -/
def condition (wanted : Wanted) : Scanner Expr := fun i => do
  let (_, i) ← expect all .leftParen wanted i
  let (e, i) ← read .expression i
  let (_, i) ← expect all .rightParen .conditionEnd i
  .ok (e, i)

/-- A branch with or without an alternative. -/
def branch : Scanner Stmt := fun i => do
  let (start, i) ← advance all i
  let (test, i) ← condition all read .ifParen i
  let ((thenBody, thenSpan), i) ← read .block i
  let (other, i) ← skip all .elseWord i
  if other then
    let ((elseBody, elseSpan), i) ← read .block i
    .ok (.branch test thenBody (some elseBody) (start.span.through elseSpan), i)
  else .ok (.branch test thenBody none (start.span.through thenSpan), i)

/-- A loop. -/
def loop : Scanner Stmt := fun i => do
  let (start, i) ← advance all i
  let (test, i) ← condition all read .whileParen i
  let ((body, span), i) ← read .block i
  .ok (.loop test body (start.span.through span), i)

/-- A return with or without a value. -/
def result : Scanner Stmt := fun i => do
  let (start, i) ← advance all i
  let t ← peek all i
  if Grammar.endsResult t.kind then .ok (.result none (start.span.through start.span), i)
  else
    let (value, i) ← read .expression i
    .ok (.result (some value) (start.span.through value.span), i)

/-- The end of a loop or of a round of it. -/
def jump (kind : Jump) : Scanner Stmt := fun i => do
  let (word, i) ← advance all i
  .ok (.jump kind word.span, i)

/-- An expression as a statement. -/
def expressionStatement : Scanner Stmt := fun i => do
  let (value, i) ← read .expression i
  .ok (.expr value value.span, i)

/-- A statement without the semicolon after it. -/
def bareStatement : Scanner Stmt := fun i => do
  let token ← peek all i
  match token.kind with
  | .varWord => newVariable all read i
  | .ifWord => branch all read i
  | .whileWord => loop all read i
  | .returnWord => result all read i
  | .breakWord => jump all .breakLoop i
  | .continueWord => jump all .continueLoop i
  | .identifier =>
    let second ← peek all (i + 1)
    if second.kind = .equals then assignment all read i else expressionStatement read i
  | _ => expressionStatement read i

/-- A statement and an optional semicolon. -/
def statement : Scanner Stmt := fun i => do
  let (s, i) ← bareStatement all read i
  let (_, i) ← skip all .semicolon i
  .ok (s, i)

/-- Statements in braces, or one statement. -/
def block : Scanner (List Stmt × Span) := fun i => do
  let t ← peek all i
  if t.kind = .leftBrace then braces all read i
  else
    let (s, i) ← read .statement i
    .ok (([s], s.span), i)

/-- Statements up to a closing brace or the end of the input. -/
def body : Scanner (List Stmt) := fun i => do
  let t ← peek all i
  if t.kind = .rightBrace ∨ t.kind = .endOfInput then .ok ([], i)
  else
    let (s, i) ← read .statement i
    let (rest, i) ← read .body i
    .ok (s :: rest, i)

/-- Statements up to the end of the input. -/
def program : Scanner (List Stmt) := fun i => do
  let t ← peek all i
  if t.kind = .endOfInput then .ok ([], i)
  else
    let (s, i) ← read .statement i
    let (rest, i) ← read .program i
    .ok (s :: rest, i)

/-! ## The whole grammar -/

/-- The production of each phrase. -/
def produce : Scanners
  | .program => program all read
  | .body => body all read
  | .block => block all read
  | .statement => statement all read
  | .operation level => operation read level
  | .chain level left => chain all read level left
  | .unary => unary all read
  | .arguments => arguments all read

end

/-- The scanner of every phrase, with productions nested at most `fuel` deep. -/
def scan (all : List Token) : Nat → Scanners
  | 0 => fun _ _ => .error (.fault .exhausted)
  | fuel + 1 => fun phrase i => produce all (scan all fuel) phrase i

end Cursor

end Scriptlet
