import Scriptlet.Binary.Arithmetic

/-
  Elementary functions of single numbers.
  A function is evaluated in the 64-bit arithmetic of the machine and rounded to the format. The
  inverse hyperbolic tangent is computed from the logarithm, each step rounded.
-/

namespace Scriptlet

namespace Double

/-- The number that a machine word encodes. -/
def ofBits (bits : Nat) : Double :=
  let negative := bits.testBit 63
  let exponent := (bits >>> 52) % 0x800
  let fraction := bits % (1 <<< 52)
  if exponent = 0x7ff then if fraction = 0 then .infinite negative else .nan
  else if exponent = 0 then .ofQuotient negative fraction 1
  else .ofQuotient negative (((1 <<< 52) + fraction) <<< (exponent - 1)) 1

end Double

namespace Single

/-- The machine number equal to `x`. -/
def toMachine : Single → Float
  | .nan => 0.0 / 0.0
  | .infinite negative => if negative then -1.0 / 0.0 else 1.0 / 0.0
  | .finite negative units _ =>
    let low := Format.single.slack units
    let magnitude := (Float.ofNat (units >>> low)).scaleB (low - Format.single.scale : Int)
    if negative then -magnitude else magnitude

/-- The single number nearest to a machine number. -/
def ofMachine (x : Float) : Single :=
  (Double.ofBits x.toBits.toNat).convert

/-- A function of one machine number as a function of one single number. -/
def lift (f : Float → Float) (x : Single) : Single :=
  ofMachine (f x.toMachine)

/-- A function of two machine numbers as a function of two single numbers. -/
def lift₂ (f : Float → Float → Float) (x y : Single) : Single :=
  ofMachine (f x.toMachine y.toMachine)

/-- The logarithm of one plus `x`, accurate also where `x` is small. -/
def logOnePlus (x : Single) : Single :=
  lift (fun t =>
    let u := 1.0 + t
    if u == 1.0 || t == 1.0 / 0.0 then t else u.log * t / (u - 1.0)) x

/-- The inverse hyperbolic tangent, half of `log (1 + 2 x / (1 - x))`. -/
def atanh (x : Single) : Single :=
  logOnePlus ((2 * x) / (1 - x)) / 2

/-- The logarithm of `x` to the base `base`. -/
def logBase (x base : Single) : Single :=
  lift Float.log x / lift Float.log base

end Single

end Scriptlet
