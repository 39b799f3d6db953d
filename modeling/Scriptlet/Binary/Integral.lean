import Scriptlet.Binary.Basic

/-
  Whole numbers near a binary floating-point number: toward zero, down, up, and to the nearest.
  A rounding to floating point keeps the sign, also of a zero; one to an integer range is clamped
  to it and takes what is not a number to zero.
-/

namespace Scriptlet.Binary

variable {f : Format}

/-- A rule that picks a whole number for a sign and a magnitude of `num / den`. -/
abbrev WholeRule : Type := Bool → Nat → Nat → Nat

/-- Toward zero. -/
def towardZero : WholeRule := fun _ num den => num / den

/-- Away from zero unless the magnitude is whole. -/
def awayFromZero (num den : Nat) : Nat := (num + den - 1) / den

/-- Toward negative infinity. -/
def downward : WholeRule := fun negative num den =>
  if negative then awayFromZero num den else num / den

/-- Toward positive infinity. -/
def upward : WholeRule := fun negative num den =>
  if negative then num / den else awayFromZero num den

/-- To the nearest whole number, ties to even. -/
def toNearest : WholeRule := fun _ num den => Format.halfEven num den

/-- The whole number that `rule` picks, as a number of the same format. -/
def toWhole (rule : WholeRule) (x : Binary f) : Binary f :=
  match x with
  | .finite negative units _ =>
    ofQuotient negative (rule negative units (1 <<< f.scale) <<< f.scale) 1
  | x => x

/-- The nearest integer to `n` in a closed range. -/
def clamp (low high n : Int) : Int :=
  if n < low then low else if high < n then high else n

/-- The integer that `rule` picks, clamped to a range; zero for what is not a number. -/
def toRange (rule : WholeRule) (low high : Int) (x : Binary f) : Int :=
  match x with
  | .nan => 0
  | .infinite negative => if negative then low else high
  | .finite negative units _ =>
    let whole := rule negative units (1 <<< f.scale)
    clamp low high (if negative then -whole else whole)

/-- The least and the greatest integer of 32 bits. -/
def range32 : Int × Int := (-0x80000000, 0x7fffffff)

/-- The least and the greatest integer of 64 bits. -/
def range64 : Int × Int := (-0x8000000000000000, 0x7fffffffffffffff)

/-- The number without its fraction, clamped to 32 bits. -/
def truncate32 (x : Binary f) : Int :=
  x.toRange towardZero range32.1 range32.2

/-- The nearest integer of 32 bits. -/
def round32 (x : Binary f) : Int :=
  x.toRange toNearest range32.1 range32.2

/-- The nearest integer of 64 bits. -/
def round64 (x : Binary f) : Int :=
  x.toRange toNearest range64.1 range64.2

end Scriptlet.Binary
