import Scriptlet.Binary.Basic
import Scriptlet.Text.Position

/-
  Programs as trees: statements and expressions with the spans they were read from, the types that
  expressions are known to have before they are evaluated, and the trees without their spans.
-/

namespace Scriptlet

/-- A constant written in a program. -/
inductive Literal where
  | number (x : Single)
  | string (s : String)
  | bool (b : Bool)
  | null
deriving DecidableEq

/-- The operators between two operands. -/
inductive BinaryOp where
  | add
  | sub
  | mul
  | div
  | mod
  | equal
  | notEqual
  | less
  | lessEqual
  | greater
  | greaterEqual
  | and
  | or
deriving DecidableEq

/-- The text of an operator. -/
def BinaryOp.symbol : BinaryOp → String
  | .add => "+"
  | .sub => "-"
  | .mul => "*"
  | .div => "/"
  | .mod => "%"
  | .equal => "=="
  | .notEqual => "!="
  | .less => "<"
  | .lessEqual => "<="
  | .greater => ">"
  | .greaterEqual => ">="
  | .and => "and"
  | .or => "or"

/-- Whether the operator tests for equality. -/
def BinaryOp.isEquality : BinaryOp → Bool
  | .equal | .notEqual => true
  | _ => false

/-- The operators before one operand. -/
inductive UnaryOp where
  | negate
  | not
deriving DecidableEq

/-- What is known of the type of an expression before it is evaluated. -/
inductive StaticType where
  | number
  | string
  | bool
  | dynamic
deriving DecidableEq

/-- The name of a static type. -/
def StaticType.label : StaticType → String
  | .number => "float"
  | .string => "string"
  | .bool => "bool"
  | .dynamic => "dynamic"

/-- A statement that ends a round of a loop, or the loop. -/
inductive Jump where
  | breakLoop
  | continueLoop
deriving DecidableEq

/-- The word of a jump. -/
def Jump.word : Jump → String
  | .breakLoop => "break"
  | .continueLoop => "continue"

mutual

/-- An expression. -/
inductive Expr where
  | literal (value : Literal) (span : Span)
  | variable (name : String) (span : Span)
  | binary (op : BinaryOp) (left right : Expr) (span : Span)
  | unary (op : UnaryOp) (operand : Expr) (span : Span)
  | call (name : String) (args : List Expr) (span : Span)
  | function (declaration : Declaration) (span : Span)

/-- A statement. -/
inductive Stmt where
  | variable (name : String) (value : Expr) (span : Span)
  | assign (name : String) (value : Expr) (span : Span)
  | branch (condition : Expr) (thenBody : List Stmt) (elseBody : Option (List Stmt)) (span : Span)
  | loop (condition : Expr) (body : List Stmt) (span : Span)
  | result (value : Option Expr) (span : Span)
  | jump (jump : Jump) (span : Span)
  | expr (value : Expr) (span : Span)

/-- A function declaration. `hasReturn` tells whether the body returns a value: a call of a
function that does not yields void. -/
structure Declaration where
  name : String
  params : List String
  body : List Stmt
  hasReturn : Bool
  span : Span

end

instance : Inhabited Expr := ⟨.literal .null default⟩
instance : Inhabited Stmt := ⟨.expr default default⟩

/-- A program: the statements of a source. -/
structure Program where
  statements : List Stmt

/-! ## Spans and types -/

/-- Where an expression stands. -/
def Expr.span : Expr → Span
  | .literal _ span => span
  | .variable _ span => span
  | .binary _ _ _ span => span
  | .unary _ _ span => span
  | .call _ _ span => span
  | .function _ span => span

/-- Where a statement stands. -/
def Stmt.span : Stmt → Span
  | .variable _ _ span => span
  | .assign _ _ span => span
  | .branch _ _ _ span => span
  | .loop _ _ span => span
  | .result _ span => span
  | .jump _ span => span
  | .expr _ span => span

/-- The type of a literal; null may be compared with anything. -/
def Literal.staticType : Literal → StaticType
  | .number _ => .number
  | .string _ => .string
  | .bool _ => .bool
  | .null => .dynamic

/-- The type of an operation, whatever its operands. -/
def BinaryOp.staticType : BinaryOp → StaticType
  | .add | .sub | .mul | .div | .mod => .number
  | _ => .bool

/-- The type of an operation, whatever its operand. -/
def UnaryOp.staticType : UnaryOp → StaticType
  | .negate => .number
  | .not => .bool

/-- What is known of the type of an expression. -/
def Expr.staticType : Expr → StaticType
  | .literal value _ => value.staticType
  | .binary op _ _ _ => op.staticType
  | .unary op _ _ => op.staticType
  | .variable _ _ | .call _ _ _ | .function _ _ => .dynamic

mutual

/-- Whether a statement is or holds a return, nested declarations left aside. -/
def Stmt.returns : Stmt → Bool
  | .result _ _ => true
  | .branch _ thenBody none _ => anyReturns thenBody
  | .branch _ thenBody (some elseBody) _ => anyReturns thenBody || anyReturns elseBody
  | .loop _ body _ => anyReturns body
  | _ => false

/-- Whether one of the statements is or holds a return, nested declarations left aside. -/
def anyReturns : List Stmt → Bool
  | [] => false
  | s :: rest => s.returns || anyReturns rest

end

/-! ## Trees without spans -/

mutual

/-- The expression with every span at the beginning. -/
def Expr.unspanned : Expr → Expr
  | .literal value _ => .literal value .zero
  | .variable name _ => .variable name .zero
  | .binary op left right _ => .binary op left.unspanned right.unspanned .zero
  | .unary op operand _ => .unary op operand.unspanned .zero
  | .call name args _ => .call name (unspannedArgs args) .zero
  | .function declaration _ => .function declaration.unspanned .zero

/-- The arguments with every span at the beginning. -/
def unspannedArgs : List Expr → List Expr
  | [] => []
  | e :: rest => e.unspanned :: unspannedArgs rest

/-- The statement with every span at the beginning. -/
def Stmt.unspanned : Stmt → Stmt
  | .variable name value _ => .variable name value.unspanned .zero
  | .assign name value _ => .assign name value.unspanned .zero
  | .branch condition thenBody none _ =>
    .branch condition.unspanned (unspannedBody thenBody) none .zero
  | .branch condition thenBody (some elseBody) _ =>
    .branch condition.unspanned (unspannedBody thenBody) (some (unspannedBody elseBody)) .zero
  | .loop condition body _ => .loop condition.unspanned (unspannedBody body) .zero
  | .result none _ => .result none .zero
  | .result (some value) _ => .result (some value.unspanned) .zero
  | .jump jump _ => .jump jump .zero
  | .expr value _ => .expr value.unspanned .zero

/-- The statements with every span at the beginning. -/
def unspannedBody : List Stmt → List Stmt
  | [] => []
  | s :: rest => s.unspanned :: unspannedBody rest

/-- The declaration with every span at the beginning. -/
def Declaration.unspanned : Declaration → Declaration
  | ⟨name, params, body, hasReturn, _⟩ => ⟨name, params, unspannedBody body, hasReturn, .zero⟩

end

/-- The program with every span at the beginning. -/
def Program.unspanned (p : Program) : Program :=
  ⟨unspannedBody p.statements⟩

end Scriptlet
