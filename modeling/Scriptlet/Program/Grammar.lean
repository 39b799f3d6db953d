import Scriptlet.Program.Basic
import Scriptlet.Binary.Decimal
import Scriptlet.Token.Lexer
import Scriptlet.Token.Quoted

/-
  Reading a program from tokens.
  Each phrase of the grammar has one production, which reads the phrases inside it by a given
  reader; the reader of all phrases is the productions tied together as often as a fuel allows.
  Every round of productions takes a token, so a fuel proportional to the number of tokens never
  runs out. A fault tells what was wanted and the token that was found.
-/

namespace Scriptlet

/-- What the reader of a phrase was looking for when it met another token. -/
inductive Wanted where
  | variableName
  | variableEquals
  | ifParen
  | whileParen
  | conditionEnd
  | blockEnd
  | parenEnd
  | argumentsEnd
  | operand
  | numeral
deriving DecidableEq

namespace Wanted

/-- The wording of what was wanted. -/
def message : Wanted → String
  | .variableName => "expected variable name after `var`"
  | .variableEquals => "expected `=` in variable declaration"
  | .ifParen => "expected `(` after `if`"
  | .whileParen => "expected `(` after `while`"
  | .conditionEnd => "expected `)` after condition"
  | .blockEnd => "expected `\x7d` to close block"
  | .parenEnd => "expected `)` after expression"
  | .argumentsEnd => "expected `)` after arguments"
  | .operand => "unexpected token in expression"
  | .numeral => "invalid number literal"

/-- The kinds of tokens that would have been accepted. -/
def kinds : Wanted → List TokenKind
  | .variableName => [.identifier]
  | .variableEquals => [.equals]
  | .ifParen => [.leftParen]
  | .whileParen => [.leftParen]
  | .conditionEnd => [.rightParen]
  | .blockEnd => [.rightBrace]
  | .parenEnd => [.rightParen]
  | .argumentsEnd => [.rightParen, .comma]
  | .operand =>
    [.leftParen, .identifier, .number, .string, .trueWord, .falseWord, .nullWord, .minus, .notWord]
  | .numeral => [.number]

end Wanted

/-- What is wrong with a list of tokens that is no program. -/
inductive ParseFault where
  /-- A token is not what the phrase wants next. -/
  | unexpected (wanted : Wanted) (found : Token)
  /-- An equality has operands of two known types. -/
  | typeMismatch (op : BinaryOp) (left right : StaticType) (span : Span)
  /-- The fuel was too small for the nesting. -/
  | exhausted
deriving DecidableEq

/-- A reader of one kind of phrase: what it read and the tokens left, or the first fault. -/
abbrev Reader (α : Type) : Type := List Token → Except ParseFault (α × List Token)

/-- The levels of operators between two operands, loosest first. -/
inductive Level where
  | disjunction
  | conjunction
  | comparison
  | sum
  | product
deriving DecidableEq

/-- The operator of a level that a token stands for. -/
def Level.operator? : Level → TokenKind → Option BinaryOp
  | .disjunction, .orWord => some .or
  | .conjunction, .andWord => some .and
  | .comparison, .greater => some .greater
  | .comparison, .less => some .less
  | .comparison, .greaterEqual => some .greaterEqual
  | .comparison, .lessEqual => some .lessEqual
  | .comparison, .equalEqual => some .equal
  | .comparison, .notEqual => some .notEqual
  | .sum, .plus => some .add
  | .sum, .minus => some .sub
  | .product, .times => some .mul
  | .product, .divide => some .div
  | .product, .modulo => some .mod
  | _, _ => none

/-- The phrases of the grammar. -/
inductive Phrase where
  /-- Statements up to the end of the input. -/
  | program
  /-- Statements up to a closing brace or the end of the input. -/
  | body
  /-- Statements in braces, or one statement. -/
  | block
  | statement
  /-- Operands joined by operators of the level, or of a tighter one. -/
  | operation (level : Level)
  /-- What follows a left operand on its level. -/
  | chain (level : Level) (left : Expr)
  | unary
  /-- One or more expressions with commas between them. -/
  | arguments

namespace Phrase

/-- An expression is an operation of the loosest level. -/
abbrev expression : Phrase := .operation .disjunction

/-- What is read from a phrase. -/
abbrev Result : Phrase → Type
  | .program => List Stmt
  | .body => List Stmt
  | .block => List Stmt × Span
  | .statement => Stmt
  | .operation _ => Expr
  | .chain _ _ => Expr
  | .unary => Expr
  | .arguments => List Expr

end Phrase

/-- A reader for every phrase. -/
abbrev Readers : Type := (phrase : Phrase) → Reader phrase.Result

namespace Grammar

/-! ## Single tokens -/

/-- The next token. -/
def next (ts : List Token) : Token :=
  ts.headD (.atEnd 0)

/-- The kind of the next token. -/
def nextKind (ts : List Token) : TokenKind :=
  (next ts).kind

/-- Takes a token of the given kind. -/
def expect (kind : TokenKind) (wanted : Wanted) : Reader Token := fun ts =>
  if nextKind ts = kind then .ok (next ts, ts.tail) else .error (.unexpected wanted (next ts))

/-- Takes a semicolon if one comes next. -/
def skipSemicolon (ts : List Token) : List Token :=
  if nextKind ts = .semicolon then ts.tail else ts

/-! ## Expressions -/

/-- The operation on two operands. An equality of operands with known types needs equal ones. -/
def combine (op : BinaryOp) (left right : Expr) : Except ParseFault Expr :=
  let span := left.span.through right.span
  if op.isEquality ∧ left.staticType ≠ .dynamic ∧ right.staticType ≠ .dynamic ∧
      left.staticType ≠ right.staticType then
    .error (.typeMismatch op left.staticType right.staticType span)
  else .ok (.binary op left right span)

/-- An operand of an operation of the given level. -/
def operand (read : Readers) : Level → Reader Expr
  | .disjunction => read (.operation .conjunction)
  | .conjunction => read (.operation .comparison)
  | .comparison => read (.operation .sum)
  | .sum => read (.operation .product)
  | .product => read .unary

/-- An operand and what follows it on its level. -/
def operation (read : Readers) (level : Level) : Reader Expr := fun ts => do
  let (left, ts) ← operand read level ts
  read (.chain level left) ts

/-- Operators of a level with their right operands, joined to `left` from left to right. -/
def chain (read : Readers) (level : Level) (left : Expr) : Reader Expr := fun ts =>
  match level.operator? (nextKind ts) with
  | none => .ok (left, ts)
  | some op => do
    let (right, ts) ← operand read level ts.tail
    let whole ← combine op left right
    read (.chain level whole) ts

/-- Names with commas between them up to a closing parenthesis. -/
def moreParams? : List Token → Option (List String × List Token)
  | name :: mark :: ts =>
    if name.kind ≠ .identifier then none
    else if mark.kind = .rightParen then some ([name.lexeme], ts)
    else if mark.kind = .comma then
      (moreParams? ts).map fun (names, ts) => (name.lexeme :: names, ts)
    else none
  | _ => none

/-- A parameter list in parentheses, if an opening brace follows it; the brace is left. -/
def params? (ts : List Token) : Option (List String × List Token) := do
  guard (nextKind ts = .leftParen)
  let (names, ts) ←
    if nextKind ts.tail = .rightParen then some ([], ts.tail.tail) else moreParams? ts.tail
  guard (nextKind ts = .leftBrace)
  some (names, ts)

/-- Statements in braces, and the span from brace to brace. -/
def braces (read : Readers) : Reader (List Stmt × Span) := fun ts => do
  let opening := next ts
  let (body, ts) ← read .body ts.tail
  let (closing, ts) ← expect .rightBrace .blockEnd ts
  .ok ((body, opening.span.through closing.span), ts)

/-- The declaration of the function `name` with a parameter list that has been read. -/
def declaration (read : Readers) (name : Token) (params : List String) : Reader Expr := fun ts => do
  let ((body, bodySpan), ts) ← braces read ts
  let span := name.span.through bodySpan
  .ok (.function ⟨name.lexeme, params, body, anyReturns body, span⟩ span, ts)

/-- The arguments of a call up to the closing parenthesis, which is left. -/
def callArguments (read : Readers) : Reader (List Expr) := fun ts =>
  if nextKind ts = .rightParen then .ok ([], ts) else read .arguments ts

/-- The call of `name`; the opening parenthesis has been taken. -/
def call (read : Readers) (name : Token) : Reader Expr := fun ts => do
  let (args, ts) ← callArguments read ts
  let (closing, ts) ← expect .rightParen .argumentsEnd ts
  .ok (.call name.lexeme args (name.span.through closing.span), ts)

/-- What begins with a name: a declaration if a parameter list and a brace follow, a call if a
parenthesis follows, and else a variable. -/
def named (read : Readers) (name : Token) : Reader Expr := fun ts =>
  match params? ts with
  | some (params, ts) => declaration read name params ts
  | none =>
    if nextKind ts = .leftParen then call read name ts.tail
    else .ok (.variable name.lexeme name.span, ts)

/-- The literal that a token is. -/
def literal? (token : Token) : Except ParseFault Literal :=
  match token.kind with
  | .number =>
    match Binary.read? token.lexeme with
    | some x => .ok (.number x)
    | none => .error (.unexpected .numeral token)
  | .string => .ok (.string (Quoted.unquote token.lexeme))
  | .trueWord => .ok (.bool true)
  | .falseWord => .ok (.bool false)
  | .nullWord => .ok .null
  | _ => .error (.unexpected .operand token)

/-- An expression without an operator outside parentheses. -/
def primary (read : Readers) : Reader Expr := fun ts =>
  let token := next ts
  match token.kind with
  | .leftParen => do
    let (inner, ts) ← read .expression ts.tail
    let (_, ts) ← expect .rightParen .parenEnd ts
    .ok (inner, ts)
  | .identifier => named read token ts.tail
  | _ => do
    let value ← literal? token
    .ok (.literal value token.span, ts.tail)

/-- The operator before one operand that a token stands for. -/
def unaryOp? : TokenKind → Option UnaryOp
  | .minus => some .negate
  | .notWord => some .not
  | _ => none

/-- An operand with any number of operators before it. -/
def unary (read : Readers) : Reader Expr := fun ts =>
  match unaryOp? (nextKind ts) with
  | some op => do
    let (operand, rest) ← read .unary ts.tail
    .ok (.unary op operand ((next ts).span.through operand.span), rest)
  | none => primary read ts

/-- One or more expressions with commas between them. -/
def arguments (read : Readers) : Reader (List Expr) := fun ts => do
  let (e, ts) ← read .expression ts
  if nextKind ts = .comma then
    let (more, ts) ← read .arguments ts.tail
    .ok (e :: more, ts)
  else .ok ([e], ts)

/-! ## Statements -/

/-- A variable with its first value; the word `var` is `start`. -/
def newVariable (read : Readers) (start : Token) : Reader Stmt := fun ts => do
  let (name, ts) ← expect .identifier .variableName ts
  let (_, ts) ← expect .equals .variableEquals ts
  let (value, ts) ← read .expression ts
  .ok (.variable name.lexeme value (start.span.through value.span), ts)

/-- A new value for the variable `name`; the equals sign comes next. -/
def assignment (read : Readers) (name : Token) : Reader Stmt := fun ts => do
  let (value, ts) ← read .expression ts.tail
  .ok (.assign name.lexeme value (name.span.through value.span), ts)

/-- A condition in parentheses. -/
def condition (read : Readers) (wanted : Wanted) : Reader Expr := fun ts => do
  let (_, ts) ← expect .leftParen wanted ts
  let (e, ts) ← read .expression ts
  let (_, ts) ← expect .rightParen .conditionEnd ts
  .ok (e, ts)

/-- A branch with or without an alternative; the word `if` is `start`. -/
def branch (read : Readers) (start : Token) : Reader Stmt := fun ts => do
  let (test, ts) ← condition read .ifParen ts
  let ((thenBody, thenSpan), ts) ← read .block ts
  if nextKind ts = .elseWord then
    let ((elseBody, elseSpan), ts) ← read .block ts.tail
    .ok (.branch test thenBody (some elseBody) (start.span.through elseSpan), ts)
  else .ok (.branch test thenBody none (start.span.through thenSpan), ts)

/-- A loop; the word `while` is `start`. -/
def loop (read : Readers) (start : Token) : Reader Stmt := fun ts => do
  let (test, ts) ← condition read .whileParen ts
  let ((body, span), ts) ← read .block ts
  .ok (.loop test body (start.span.through span), ts)

/-- Whether nothing to return follows the word `return`. -/
def endsResult (kind : TokenKind) : Bool :=
  kind == .semicolon || kind == .rightBrace || kind == .endOfInput

/-- A return with or without a value; the word `return` is `start`. -/
def result (read : Readers) (start : Token) : Reader Stmt := fun ts =>
  if endsResult (nextKind ts) then .ok (.result none (start.span.through start.span), ts)
  else do
    let (value, ts) ← read .expression ts
    .ok (.result (some value) (start.span.through value.span), ts)

/-- An expression as a statement. -/
def expressionStatement (read : Readers) : Reader Stmt := fun ts => do
  let (value, ts) ← read .expression ts
  .ok (.expr value value.span, ts)

/-- A statement without the semicolon after it. -/
def bareStatement (read : Readers) : Reader Stmt := fun ts =>
  let token := next ts
  match token.kind with
  | .varWord => newVariable read token ts.tail
  | .ifWord => branch read token ts.tail
  | .whileWord => loop read token ts.tail
  | .returnWord => result read token ts.tail
  | .breakWord => .ok (.jump .breakLoop token.span, ts.tail)
  | .continueWord => .ok (.jump .continueLoop token.span, ts.tail)
  | .identifier =>
    if nextKind ts.tail = .equals then assignment read token ts.tail
    else expressionStatement read ts
  | _ => expressionStatement read ts

/-- A statement and an optional semicolon. -/
def statement (read : Readers) : Reader Stmt := fun ts => do
  let (s, ts) ← bareStatement read ts
  .ok (s, skipSemicolon ts)

/-- Statements in braces, or one statement. -/
def block (read : Readers) : Reader (List Stmt × Span) := fun ts =>
  if nextKind ts = .leftBrace then braces read ts
  else do
    let (s, ts) ← read .statement ts
    .ok (([s], s.span), ts)

/-- Statements up to a closing brace or the end of the input. -/
def body (read : Readers) : Reader (List Stmt) := fun ts =>
  if nextKind ts = .rightBrace ∨ nextKind ts = .endOfInput then .ok ([], ts)
  else do
    let (s, ts) ← read .statement ts
    let (rest, ts) ← read .body ts
    .ok (s :: rest, ts)

/-- Statements up to the end of the input. -/
def program (read : Readers) : Reader (List Stmt) := fun ts =>
  if nextKind ts = .endOfInput then .ok ([], ts)
  else do
    let (s, ts) ← read .statement ts
    let (rest, ts) ← read .program ts
    .ok (s :: rest, ts)

/-! ## The whole grammar -/

/-- The production of each phrase. -/
def produce (read : Readers) : Readers
  | .program => program read
  | .body => body read
  | .block => block read
  | .statement => statement read
  | .operation level => operation read level
  | .chain level left => chain read level left
  | .unary => unary read
  | .arguments => arguments read

/-- The reader of every phrase, with productions nested at most `fuel` deep. -/
def read : Nat → Readers
  | 0 => fun _ _ => .error .exhausted
  | fuel + 1 => fun phrase ts => produce (read fuel) phrase ts

/-- A fuel that suffices for the given tokens. -/
def enough (ts : List Token) : Nat :=
  16 * (ts.length + 1)

end Grammar

/-! ## Programs -/

namespace ParseFault

/-- The kind of diagnostic that a fault is reported as. -/
def kind : ParseFault → DiagnosticKind
  | .unexpected _ _ => .parser
  | .typeMismatch _ _ _ _ => .typeMismatch
  | .exhausted => .parser

/-- A token as a message names it. -/
def foundText (token : Token) : String :=
  if token.kind = .endOfInput then "end of input" else "`" ++ token.lexeme ++ "`"

/-- The wording of a fault. -/
def message : ParseFault → String
  | .unexpected wanted found => wanted.message ++ ", found " ++ foundText found
  | .typeMismatch op left right _ =>
    s!"Type mismatch: cannot compare {left.label} with {right.label} using `{op.symbol}`"
  | .exhausted => "nesting is too deep"

/-- Where a fault lies. -/
def span? : ParseFault → Option Span
  | .unexpected _ found => some found.span
  | .typeMismatch _ _ _ span => some span
  | .exhausted => none

/-- What would have been accepted. -/
def expected : ParseFault → List String
  | .unexpected wanted _ => wanted.kinds.map TokenKind.label
  | _ => []

/-- The remarks on a fault. -/
def notes : ParseFault → List String
  | .typeMismatch _ _ _ _ => ["`==` and `!=` require both operands to have the same type"]
  | _ => []

/-- The diagnostic of a fault, without a position. -/
def diagnostic (fault : ParseFault) : Diagnostic :=
  { kind := fault.kind, message := fault.message, span := fault.span?,
    expected := fault.expected, notes := fault.notes }

end ParseFault

/-- What is wrong with a source that is no program. -/
inductive SourceFault where
  | lexical (fault : LexFault)
  | grammatical (fault : ParseFault)
deriving DecidableEq

/-- The diagnostic of a fault in the given source. -/
def SourceFault.diagnostic (fault : SourceFault) (source : String) : Diagnostic :=
  match fault with
  | .lexical fault => fault.diagnostic.locatedIn source
  | .grammatical fault => fault.diagnostic.locatedIn source

namespace Program

/-- The program that a list of tokens is; the last token is that of the end of the input. -/
def ofTokens (ts : List Token) : Except ParseFault Program :=
  (Grammar.read (Grammar.enough ts) .program ts).map fun (statements, _) => ⟨statements⟩

/-- The program that a source is. -/
def parse (source : String) : Except SourceFault Program :=
  match Token.tokenize source with
  | .error fault => .error (.lexical fault)
  | .ok ts =>
    match ofTokens ts with
    | .error fault => .error (.grammatical fault)
    | .ok program => .ok program

/-- The program that a source is, or the diagnostic of what is wrong with it. -/
def ofSource (source : String) : Except Diagnostic Program :=
  (parse source).mapError (·.diagnostic source)

end Program

end Scriptlet
