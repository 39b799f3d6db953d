import Scriptlet.Binary.Basic

/-
  Arithmetic on binary floating-point numbers.
  Each operation computes the exact result as a quotient of units and rounds it once.
-/

namespace Scriptlet.Binary

variable {f : Format}

/-- The number nearest to a signed number of units divided by `den`; `zeroSign` is the sign of a
zero that is exact. -/
def ofSigned (units : Int) (den : Nat) (zeroSign : Bool) : Binary f :=
  if units = 0 then zero zeroSign else ofQuotient (units < 0) units.natAbs den

/-- The sum. An exact zero is negative only if both operands are. -/
def add (x y : Binary f) : Binary f :=
  match x, y with
  | .nan, _ => .nan
  | _, .nan => .nan
  | .infinite a, .infinite b => if a = b then .infinite a else .nan
  | .infinite a, _ => .infinite a
  | _, .infinite b => .infinite b
  | .finite a _ _, .finite b _ _ => ofSigned (x.rank + y.rank) 1 (a && b)

/-- The difference. -/
def sub (x y : Binary f) : Binary f :=
  x.add y.neg

/-- The product. -/
def mul (x y : Binary f) : Binary f :=
  match x, y with
  | .nan, _ => .nan
  | _, .nan => .nan
  | .infinite a, .infinite b => .infinite (a != b)
  | .infinite a, .finite b n _ => if n = 0 then .nan else .infinite (a != b)
  | .finite a n _, .infinite b => if n = 0 then .nan else .infinite (a != b)
  | .finite a m _, .finite b n _ => ofQuotient (a != b) (m * n) (1 <<< f.scale)

/-- The quotient; a nonzero number divided by zero is infinite. -/
def div (x y : Binary f) : Binary f :=
  match x, y with
  | .nan, _ => .nan
  | _, .nan => .nan
  | .infinite _, .infinite _ => .nan
  | .infinite a, .finite b _ _ => .infinite (a != b)
  | .finite a _ _, .infinite b => zero (a != b)
  | .finite a m _, .finite b n _ =>
    if n = 0 then if m = 0 then .nan else .infinite (a != b)
    else ofQuotient (a != b) (m <<< f.scale) n

/-- The product of `x` and `y` plus `z`, rounded once. -/
def mulAdd (x y z : Binary f) : Binary f :=
  match x, y, z with
  | .finite a m _, .finite b n _, .finite c k _ =>
    let product : Int := if a != b then -(m * n : Nat) else (m * n : Nat)
    let addend : Int := if c then -(k <<< f.scale : Nat) else (k <<< f.scale : Nat)
    ofSigned (product + addend) (1 <<< f.scale) ((a != b) && c)
  | .finite _ _ _, .finite _ _ _, z => z
  | x, y, z => (x.mul y).add z

/-- The greatest whole number whose square is at most `n`. -/
def squareRoot (n : Nat) : Nat :=
  if h : n = 0 then 0
  else
    let r := 2 * squareRoot (n / 4)
    if (r + 1) * (r + 1) ≤ n then r + 1 else r
termination_by n
decreasing_by omega

/-- The square root. A root that is not whole lies strictly between two whole numbers of units, far
below the precision, so any point between them rounds alike. -/
def sqrt (x : Binary f) : Binary f :=
  match x with
  | .nan => .nan
  | .infinite negative => if negative then .nan else .infinite false
  | .finite negative m _ =>
    if m = 0 then x
    else if negative then .nan
    else
      let square := m <<< f.scale
      let root := squareRoot square
      ofQuotient false (2 * root + (if root * root = square then 0 else 1)) 2

instance : Add (Binary f) := ⟨add⟩
instance : Sub (Binary f) := ⟨sub⟩
instance : Mul (Binary f) := ⟨mul⟩
instance : Div (Binary f) := ⟨div⟩

/-- The greater of two numbers; of a number and what is not one, the number. -/
def maximum (x y : Binary f) : Binary f :=
  if x.isNan || x.below y then y else x

/-- The lesser of two numbers; of a number and what is not one, the number. -/
def minimum (x y : Binary f) : Binary f :=
  if x.isNan || y.below x then y else x

/-- One with the sign of `x`, and zero for either zero. -/
def signum (x : Binary f) : Binary f :=
  if x.isNan then .nan
  else if x.rank = 0 then zero false
  else ofInt (if x.rank < 0 then -1 else 1)

end Scriptlet.Binary
