import Scriptlet.Value.Operand
import Scriptlet.Binary.Arithmetic

/-
  The operators on values. An operator fails at the span of the operand that has the wrong type, or
  at its own span if both are to blame.
-/

namespace Scriptlet

/-- The value of a literal. -/
def Literal.value : Literal → Value
  | .number x => .number x
  | .string s => .string s
  | .bool b => .bool b
  | .null => .null

/-- The outcome of an order test: false where there is no order. -/
def Value.ordered (accept : Ordering → Bool) (a b : Value) : Value :=
  .bool ((a.compare? b).any accept)

/-- Where the operands of an operation stand, and whether both have known types. -/
structure OperandInfo where
  left : Span
  right : Span
  whole : Span
  typed : Bool

/-- What is known of the operands of `left op right` at `span`. -/
def OperandInfo.of (left right : Expr) (span : Span) : OperandInfo :=
  ⟨left.span, right.span, span, left.staticType ≠ .dynamic && right.staticType ≠ .dynamic⟩

namespace BinaryOp

/-- The result if the left operand settles it: false for `and`, true for `or`. -/
def settled? (op : BinaryOp) (a : Value) (span : Span) : Except Failure (Option Value) :=
  match op with
  | .and => (a.expectBool span).map fun b => if b then none else some (.bool false)
  | .or => (a.expectBool span).map fun b => if b then some (.bool true) else none
  | _ => .ok none

/-- An operation on two numbers. -/
def numeric (f : Single → Single → Except Failure Single) (info : OperandInfo) (a b : Value) :
    Except Failure Value := do
  let x ← a.expectNumber info.left
  let y ← b.expectNumber info.right
  let z ← f x y
  .ok (.number z)

/-- The equality that the types of the operands call for. -/
def equality (info : OperandInfo) (a b : Value) : Except Failure Bool :=
  if info.typed then a.staticEq b info.whole else a.dynamicEq b info.whole

/-- The result for two operands of which the left one does not settle it. -/
def apply (op : BinaryOp) (info : OperandInfo) (a b : Value) : Except Failure Value :=
  match op with
  | .add => numeric (fun x y => .ok (x + y)) info a b
  | .sub => numeric (fun x y => .ok (x - y)) info a b
  | .mul => numeric (fun x y => .ok (x * y)) info a b
  | .div => numeric (fun x y => .ok (x / y)) info a b
  | .mod => numeric (fun x y => Value.remainder x y info.whole) info a b
  | .equal => (equality info a b).map .bool
  | .notEqual => (equality info a b).map fun same => .bool (!same)
  | .less => .ok (Value.ordered (· == .lt) a b)
  | .lessEqual => .ok (Value.ordered (· != .gt) a b)
  | .greater => .ok (Value.ordered (· == .gt) a b)
  | .greaterEqual => .ok (Value.ordered (· != .lt) a b)
  | .and | .or => (b.expectBool info.right).map .bool

end BinaryOp

/-- The result of an operator before an operand at `span`. -/
def UnaryOp.apply (op : UnaryOp) (v : Value) (span : Span) : Except Failure Value :=
  match op with
  | .negate => (v.expectNumber span).map fun x => .number (-x)
  | .not => (v.expectBool span).map fun b => .bool (!b)

end Scriptlet
