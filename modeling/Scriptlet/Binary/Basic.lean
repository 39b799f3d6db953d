/-
  Binary floating-point numbers of an arbitrary format.
  A finite number is a sign and a magnitude, counted in units of the format: the unit is the least
  positive number, and a magnitude fits if it is below the ceiling and its lowest bits, those
  beyond the precision, are zero. Every result is the exact one rounded to the nearest number that
  fits, ties to even; what reaches the ceiling is infinite.
-/

namespace Scriptlet

/-- A binary floating-point format. -/
structure Format where
  /-- How many significant bits a number has. -/
  precision : Nat
  /-- The unit of the format is two to the minus `scale`. -/
  scale : Nat
  /-- Every finite magnitude is below two to the `ceiling`, in units. -/
  ceiling : Nat
deriving DecidableEq

namespace Format

/-- Numbers of 32 bits. -/
def single : Format := ⟨24, 149, 277⟩

/-- Numbers of 64 bits. -/
def double : Format := ⟨53, 1074, 2098⟩

/-- How many of the lowest bits of a magnitude the precision leaves out. -/
def slack (f : Format) (magnitude : Nat) : Nat :=
  magnitude.log2 + 1 - f.precision

/-- The magnitudes of finite numbers. -/
def Fits (f : Format) (magnitude : Nat) : Prop :=
  magnitude < 1 <<< f.ceiling ∧ magnitude % (1 <<< f.slack magnitude) = 0

instance (f : Format) (magnitude : Nat) : Decidable (f.Fits magnitude) :=
  inferInstanceAs (Decidable (_ ∧ _))

theorem fits_zero (f : Format) : f.Fits 0 :=
  ⟨Nat.one_shiftLeft _ ▸ Nat.two_pow_pos _, Nat.zero_mod _⟩

/-- The whole number nearest to a quotient, a tie going to the even one. -/
def halfEven (num den : Nat) : Nat :=
  let whole := num / den
  let left := 2 * (num % den)
  if left < den ∨ (left = den ∧ whole % 2 = 0) then whole else whole + 1

/-- The magnitude nearest to the quotient `num / den` among those the precision allows, a tie
going to the one whose last significant bit is zero. -/
def nearest (f : Format) (num den : Nat) : Nat :=
  let low := f.slack (num / den)
  halfEven num (den <<< low) <<< low

end Format

/-- A number of the format `f`: not a number, an infinity, or a finite number. -/
inductive Binary (f : Format) where
  | nan
  | infinite (negative : Bool)
  | finite (negative : Bool) (units : Nat) (fits : f.Fits units)
deriving DecidableEq

/-- The numbers scripts compute with. -/
abbrev Single : Type := Binary .single

/-- The wider numbers some host functions compute with. -/
abbrev Double : Type := Binary .double

namespace Binary

variable {f g : Format}

/-- Zero of the given sign. -/
def zero (negative : Bool) : Binary f :=
  .finite negative 0 f.fits_zero

instance : Inhabited (Binary f) := ⟨zero false⟩

/-- The number of the given sign nearest to `num / den` units. -/
def ofQuotient (negative : Bool) (num den : Nat) : Binary f :=
  let units := f.nearest num den
  if h : f.Fits units then .finite negative units h else .infinite negative

/-- The number nearest to a whole number. -/
def ofInt (n : Int) : Binary f :=
  ofQuotient (n < 0) (n.natAbs <<< f.scale) 1

instance (n : Nat) : OfNat (Binary f) n := ⟨ofInt n⟩

/-- The number of the format `g` nearest to `x`. -/
def convert (x : Binary f) : Binary g :=
  match x with
  | .nan => .nan
  | .infinite negative => .infinite negative
  | .finite negative units _ => ofQuotient negative (units <<< g.scale) (1 <<< f.scale)

/-- Whether `x` is not a number. -/
def isNan : Binary f → Bool
  | .nan => true
  | _ => false

/-- Whether the sign of `x` is minus; that of what is not a number counts as plus. -/
def isNegative : Binary f → Bool
  | .nan => false
  | .infinite negative => negative
  | .finite negative _ _ => negative

/-- The number with the magnitude of `x` and the given sign. -/
def withSign (x : Binary f) (negative : Bool) : Binary f :=
  match x with
  | .nan => .nan
  | .infinite _ => .infinite negative
  | .finite _ units h => .finite negative units h

/-- The number with the other sign. -/
def neg (x : Binary f) : Binary f :=
  x.withSign (!x.isNegative)

/-- The number with the sign plus. -/
def abs (x : Binary f) : Binary f :=
  x.withSign false

instance : Neg (Binary f) := ⟨neg⟩

/-! ## Order -/

/-- The place of a number in the order: its units with their sign, and the ceiling for an infinity.
What is not a number has no place of its own. -/
def rank : Binary f → Int
  | .nan => 0
  | .infinite negative => if negative then -(1 <<< f.ceiling : Nat) else (1 <<< f.ceiling : Nat)
  | .finite negative units _ => if negative then -units else units

/-- The order of two numbers; nothing is ordered with what is not a number. -/
def compare? (x y : Binary f) : Option Ordering :=
  if x.isNan || y.isNan then none else some (compare x.rank y.rank)

/-- Numeric equality: the two zeros are equal, and what is not a number equals nothing. -/
def equals (x y : Binary f) : Bool :=
  x.compare? y == some .eq

/-- Whether `x` is below `y`. -/
def below (x y : Binary f) : Bool :=
  x.compare? y == some .lt

end Binary

end Scriptlet
