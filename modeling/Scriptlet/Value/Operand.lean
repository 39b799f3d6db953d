import Scriptlet.Fault
import Scriptlet.Binary.Integral

/-
  Values as operands: the types an operator asks for, the two equalities and the remainder.
-/

namespace Scriptlet.Value

/-- The number that an operand at `span` is. -/
def expectNumber (v : Value) (span : Span) : Except Failure Single :=
  match v with
  | .number x => .ok x
  | v => .error ((Fault.operandType v.type .number).atSpan span)

/-- The truth value that an operand at `span` is. -/
def expectBool (v : Value) (span : Span) : Except Failure Bool :=
  match v with
  | .bool b => .ok b
  | v => .error ((Fault.operandType v.type .bool).atSpan span)

/-- Equality of operands whose types were not known before: of two types it is a fault, of one
type it is equality of the texts. -/
def dynamicEq (a b : Value) (span : Span) : Except Failure Bool :=
  if a.type = b.type then .ok (a.text == b.text)
  else .error ((Fault.incomparable a.type b.type).atSpan span)

/-- Equality of operands known to be of one type: numeric for numbers. -/
def staticEq (a b : Value) (span : Span) : Except Failure Bool :=
  match a, b with
  | .number x, .number y => .ok (x.equals y)
  | .string s, .string t => .ok (s == t)
  | .bool p, .bool q => .ok (p == q)
  | a, b => a.dynamicEq b span

/-- The remainder of the truncated operands, with the sign of the dividend. -/
def remainder (x y : Single) (span : Span) : Except Failure Single :=
  let divisor := y.truncate32
  if divisor = 0 then .error (Fault.zeroDivisor.atSpan span)
  else .ok (.ofInt (x.truncate32.tmod divisor))

end Scriptlet.Value
