import Scriptlet.Value.Operand

/-
  Values of scripts as arguments and results of host functions.
  A parameter has a type, and a type has the values it takes, the slot it is shown as, and a
  conversion that refuses what has no counterpart.
-/

namespace Scriptlet

/-- The kinds of parameters that diagnostics distinguish. -/
inductive Slot where
  | float
  | integer
  | bool
  | string
  | any
deriving DecidableEq

/-- The name of a slot. -/
def Slot.label : Slot → String
  | .float => "float"
  | .integer => "integer"
  | .bool => "bool"
  | .string => "string"
  | .any => "any"

/-- The types of host parameters. -/
inductive ParamType where
  | single
  | double
  | int32
  | int64
  | bool
  | string
  | value
deriving DecidableEq

namespace ParamType

/-- The slot that a type is shown as. -/
def slot : ParamType → Slot
  | .single | .double => .float
  | .int32 | .int64 => .integer
  | .bool => .bool
  | .string => .string
  | .value => .any

/-- What a host receives for a parameter of the type. -/
abbrev Carrier : ParamType → Type
  | .single => Single
  | .double => Double
  | .int32 | .int64 => Int
  | .bool => Bool
  | .string => String
  | .value => Value

end ParamType

namespace Value

/-- The refusal to convert a value to a slot. -/
def refuse (v : Value) (slot : Slot) : Failure :=
  (Fault.slotConversion v slot.label).bare

/-- The number that a value converts to: itself, one or zero for a truth value, or what a text
stands for when the blanks around it are left out. -/
def toSingle? : Value → Option Single
  | .number x => some x
  | .bool b => some (if b then 1 else 0)
  | .string s => Binary.readChars? (Text.trim s.toList)
  | .void | .null => none

/-- The letters of `s` with the capitals of the English alphabet made small. -/
def smallLetters (s : String) : List Char :=
  s.toList.map Char.toLower

/-- The truth value that a value converts to: a number is true unless it is zero, and a text must
be one of the two words in any case. -/
def toBool? : Value → Option Bool
  | .bool b => some b
  | .number x => some (!x.equals 0)
  | .string s =>
    if smallLetters s = "true".toList then some true
    else if smallLetters s = "false".toList then some false
    else none
  | .void | .null => none

/-- The text that a value converts to. -/
def toText? : Value → Option String
  | .void | .null => none
  | v => some v.text

/-- What a value converts to. -/
def convert? (type : ParamType) (v : Value) : Option type.Carrier :=
  match type with
  | .single => v.toSingle?
  | .double => v.toSingle?.map Binary.convert
  | .int32 => v.toSingle?.map Binary.round32
  | .int64 => v.toSingle?.map Binary.round64
  | .bool => v.toBool?
  | .string => v.toText?
  | .value => some v

/-- What a value converts to, or the refusal. -/
def convert (type : ParamType) (v : Value) : Except Failure type.Carrier :=
  match v.convert? type with
  | some x => .ok x
  | none => .error (v.refuse type.slot)

/-- The value of an integer. -/
def ofInt (n : Int) : Value :=
  .number (.ofInt n)

/-- The value of a wider number. -/
def ofDouble (x : Double) : Value :=
  .number x.convert

end Value

end Scriptlet
