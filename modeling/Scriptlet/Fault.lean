import Scriptlet.Diagnostic
import Scriptlet.Program.Basic
import Scriptlet.Value.Basic

/-
  The ways a running script can fail of itself, and the wording of each.
-/

namespace Scriptlet

/-- What can go wrong when a script runs or a host asks for something. -/
inductive Fault where
  /-- A variable is bound neither here nor in the root. -/
  | undefinedVariable (name : String)
  /-- A call names no function of this argument count. -/
  | unknownFunction (name : String) (count : Nat)
  /-- A function is given too few or too many arguments. -/
  | argumentCount (name : String) (expected received : Nat)
  /-- A function of the host finds no argument at a place. -/
  | missingArgument (name : String) (place : Nat)
  /-- An operand has the wrong type. -/
  | operandType (found wanted : ValueType)
  /-- A value has no counterpart in the slot of a host function. -/
  | slotConversion (value : Value) (slot : String)
  /-- Values of two types are tested for equality. -/
  | incomparable (left right : ValueType)
  /-- The divisor of a remainder is zero. -/
  | zeroDivisor
  /-- A variable would come to hold void. -/
  | voidVariable (name : String)
  /-- Calls are nested too deep. -/
  | callDepth (limit : Nat)
  /-- Something is printed while a printed line is handled. -/
  | nestedPrint
  /-- A function is registered on an environment that is not a root. -/
  | childRegistration (name : String)
  /-- A jump leaves a function, or the program if `function` is absent. -/
  | strayJump (jump : Jump) (function : Option String)
deriving DecidableEq

namespace Fault

/-- The kind of diagnostic that a fault is reported as. -/
def kind : Fault → DiagnosticKind
  | .undefinedVariable _ => .unresolvedName
  | .unknownFunction _ _ => .unresolvedName
  | .argumentCount _ _ _ => .arity
  | .missingArgument _ _ => .arity
  | .operandType _ _ => .conversion
  | .slotConversion _ _ => .conversion
  | .incomparable _ _ => .typeMismatch
  | .zeroDivisor => .arithmetic
  | .voidVariable _ => .voidMisuse
  | .callDepth _ => .resource
  | .nestedPrint => .resource
  | .childRegistration _ => .registration
  | .strayJump _ _ => .controlFlow

/-- The wording of a fault. -/
def message : Fault → String
  | .undefinedVariable name => s!"undefined variable `{name}`"
  | .unknownFunction name count =>
    s!"function `{name}` with {count} argument(s) is not supported"
  | .argumentCount name expected received =>
    s!"function `{name}` expected {expected} argument(s) but received {received}"
  | .missingArgument name place => s!"function `{name}` is missing argument {place}"
  | .operandType found wanted => s!"cannot convert {found.label} to {wanted.label}"
  | .slotConversion value slot =>
    s!"cannot convert {value.type.label} value `{value.text}` to {slot}"
  | .incomparable left right =>
    s!"Type mismatch: cannot compare {left.label} with {right.label}"
  | .zeroDivisor => "attempted to divide by zero in `%`"
  | .voidVariable name =>
    s!"Cannot assign void value to variable `{name}`; the function does not return a value"
  | .callDepth limit => s!"maximum call depth of {limit} exceeded"
  | .nestedPrint => "`print` called re-entrantly from a print handler"
  | .childRegistration name => s!"cannot register function `{name}` from a child environment"
  | .strayJump jump none => s!"`{jump.word}` outside of a loop reached the program"
  | .strayJump jump (some name) => s!"`{jump.word}` outside of a loop reached function `{name}`"

/-- The failure a fault is reported as where no place in the source is known. -/
def bare (fault : Fault) : Failure :=
  .diagnostic { kind := fault.kind, message := fault.message }

/-- The failure a fault at `span` is reported as. -/
def atSpan (fault : Fault) (span : Span) : Failure :=
  fault.bare.orSpan span

end Fault

end Scriptlet
