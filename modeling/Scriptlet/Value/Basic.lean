import Scriptlet.Binary.Decimal

/-
  The values of scripts, their texts and their order.
-/

namespace Scriptlet

/-- A value of a script. -/
inductive Value where
  | number (x : Single)
  | string (s : String)
  | bool (b : Bool)
  /-- What a call without a result yields; no variable holds it. -/
  | void
  | null
deriving DecidableEq, Inhabited

/-- The types of values. -/
inductive ValueType where
  | number
  | string
  | bool
  | void
  | null
deriving DecidableEq

/-- The name of a type in diagnostics. -/
def ValueType.label : ValueType → String
  | .number => "float"
  | .string => "string"
  | .bool => "bool"
  | .void => "void"
  | .null => "null"

namespace Value

/-- The type of a value. -/
def type : Value → ValueType
  | .number _ => .number
  | .string _ => .string
  | .bool _ => .bool
  | .void => .void
  | .null => .null

/-- The text of a value. -/
def text : Value → String
  | .number x => x.text
  | .string s => s
  | .bool b => if b then "true" else "false"
  | .void => "void"
  | .null => "null"

/-- Whether the value is void. -/
def isVoid : Value → Bool
  | .void => true
  | _ => false

/-- The number that the value is. -/
def number? : Value → Option Single
  | .number x => some x
  | _ => none

/-- The string that the value is. -/
def string? : Value → Option String
  | .string s => some s
  | _ => none

/-- The truth value that the value is. -/
def bool? : Value → Option Bool
  | .bool b => some b
  | _ => none

/-- The order of `<` and its kin: numbers by size, any other pair by the texts. -/
def compare? (a b : Value) : Option Ordering :=
  match a, b with
  | .number x, .number y => x.compare? y
  | a, b => some (compare a.text b.text)

/-- Whether two values are of one type and equal in content. -/
def identical (a b : Value) : Bool :=
  match a, b with
  | .number x, .number y => x.equals y
  | a, b => a == b

end Value

end Scriptlet
