import Scriptlet.Binary.Elementary
import Scriptlet.Binary.Integral

/-
  Libraries of functions on numbers, for calls that name no other function.
-/

namespace Scriptlet

/-- A function on numbers, found by its name and the number of its arguments. -/
structure MathFunction where
  name : String
  arity : Nat
  apply : List Single → Single

/-- A list of functions on numbers. -/
structure MathLibrary where
  functions : List MathFunction

namespace MathFunction

/-- A function of one number. -/
def one (name : String) (f : Single → Single) : MathFunction where
  name := name
  arity := 1
  apply
    | [x] => f x
    | _ => .nan

/-- A function of two numbers. -/
def two (name : String) (f : Single → Single → Single) : MathFunction where
  name := name
  arity := 2
  apply
    | [x, y] => f x y
    | _ => .nan

/-- A function of three numbers. -/
def three (name : String) (f : Single → Single → Single → Single) : MathFunction where
  name := name
  arity := 3
  apply
    | [x, y, z] => f x y z
    | _ => .nan

/-- The name and the number of arguments. -/
def id (f : MathFunction) : String :=
  s!"{f.name}/{f.arity}"

end MathFunction

namespace MathLibrary

open Binary Single

/-- The function of the given name and number of arguments. -/
def lookup (library : MathLibrary) (name : String) (count : Nat) : Option MathFunction :=
  library.functions.find? fun f => f.name == name && f.arity == count

/-- The standard functions. -/
def standard : MathLibrary where
  functions :=
    [.one "Abs" abs,
     .one "Acos" (lift Float.acos),
     .one "Acosh" (lift Float.acosh),
     .one "Asin" (lift Float.asin),
     .one "Asinh" (lift Float.asinh),
     .one "Atan" (lift Float.atan),
     .two "Atan2" (lift₂ Float.atan2),
     .one "Atanh" atanh,
     .one "Cbrt" (lift Float.cbrt),
     .one "Ceiling" (toWhole upward),
     .two "CopySign" fun x y => x.withSign y.isNegative,
     .one "Cos" (lift Float.cos),
     .one "Cosh" (lift Float.cosh),
     .one "Exp" (lift Float.exp),
     .one "Floor" (toWhole downward),
     .three "FusedMultiplyAdd" mulAdd,
     .one "Log" (lift Float.log),
     .two "Log" logBase,
     .one "Log10" (lift Float.log10),
     .one "Log2" (lift Float.log2),
     .two "Max" maximum,
     .two "Min" minimum,
     .two "Pow" (lift₂ Float.pow),
     .one "Round" (toWhole toNearest),
     .one "Sign" signum,
     .one "Sin" (lift Float.sin),
     .one "Sinh" (lift Float.sinh),
     .one "Sqrt" sqrt,
     .one "Tan" (lift Float.tan),
     .one "Tanh" (lift Float.tanh),
     .one "Truncate" (toWhole towardZero)]

/-- A library with one function, which doubles a number. -/
def doubling : MathLibrary where
  functions := [.one "Double" fun x => x * 2]

/-- A library without functions. -/
def empty : MathLibrary where
  functions := []

end MathLibrary

end Scriptlet
