import Scriptlet.Binary.Basic

/-
  Numbers as decimal text.
  A finite number is written with the fewest significant digits that read back as the same number,
  never with an exponent; of two such texts the nearer one is taken, and the greater of two equally
  near ones. Reading accepts a sign, digits with at most one point and an optional exponent, or the
  words for infinity and for what is not a number, and rounds correctly.
-/

namespace Scriptlet

/-- The decimal number `digits * 10 ^ exponent`, with a sign. -/
structure Decimal where
  negative : Bool
  digits : Nat
  exponent : Int
deriving DecidableEq

namespace Format

/-- The number of units in `digits * 10 ^ exponent`, as a quotient. -/
def decimalUnits (f : Format) (digits : Nat) (exponent : Int) : Nat × Nat :=
  if exponent < 0 then (digits <<< f.scale, Nat.pow 10 (-exponent).toNat)
  else ((digits * Nat.pow 10 exponent.toNat) <<< f.scale, 1)

/-- Whether `digits * 10 ^ exponent` reads back as the magnitude `units`. -/
def readsAs (f : Format) (units digits : Nat) (exponent : Int) : Bool :=
  let (num, den) := f.decimalUnits digits exponent
  f.nearest num den == units

/-- The point of the grid of multiples of `10 ^ exponent` that is written for `units`: of the two
neighbours of `units` on the grid the one that reads back, the nearer one if both do, and the
greater one if both are equally near. -/
def gridPoint? (f : Format) (units : Nat) (exponent : Int) : Option Nat :=
  let (num, den) := f.decimalUnits 1 exponent
  let low := units * den / num
  if f.readsAs units low exponent then
    if f.readsAs units (low + 1) exponent ∧ num ≤ 2 * (units * den % num) then some (low + 1)
    else some low
  else if f.readsAs units (low + 1) exponent then some (low + 1)
  else none

/-- The digits of `units` on the coarsest of `count` grids that has a point to write, from
`10 ^ exponent` downward; with no such grid, the exact digits. -/
def shortestFrom (f : Format) (units : Nat) : Nat → Int → Nat × Int
  | 0, _ => (units * Nat.pow 5 f.scale, -f.scale)
  | count + 1, exponent =>
    match f.gridPoint? units exponent with
    | some digits => (digits, exponent)
    | none => f.shortestFrom units count (exponent - 1)

/-- An exponent of ten so great that no coarser grid has a point near `units`: the power is above
four times the number. -/
def topExponent (f : Format) (units : Nat) : Int :=
  let bits : Int := units.log2 + 3 - f.scale
  if 0 ≤ bits then bits / 3 + 1 else -(-bits * 3 / 10)

/-- The fewest digits that read back as `units`, and the exponent of the last one. -/
def shortest (f : Format) (units : Nat) : Nat × Int :=
  let top := f.topExponent units
  f.shortestFrom units (top + f.scale).toNat top

end Format

namespace Decimal

/-- The decimal digits of a number, most significant first. -/
def digitChars (n : Nat) : List Char :=
  Nat.toDigits 10 n

/-- `digits * 10 ^ exponent` written without an exponent. -/
def positional (digits : Nat) (exponent : Int) : List Char :=
  let cs := digitChars digits
  if 0 ≤ exponent then cs ++ List.replicate exponent.toNat '0'
  else
    let places := (-exponent).toNat
    if places < cs.length then cs.take (cs.length - places) ++ '.' :: cs.drop (cs.length - places)
    else '0' :: '.' :: (List.replicate (places - cs.length) '0' ++ cs)

/-- The number of the format `f` nearest to a decimal. Exponents far outside the format decide by
themselves, so the powers of ten that are computed stay small. -/
def toBinary (f : Format) (d : Decimal) : Binary f :=
  if d.digits = 0 then .zero d.negative
  else if f.ceiling < d.exponent then .infinite d.negative
  else if d.digits.log2 + 3 + f.scale < -d.exponent then .zero d.negative
  else
    let (num, den) := f.decimalUnits d.digits d.exponent
    .ofQuotient d.negative num den

/-! ## Reading -/

/-- The value of a digit. -/
def digitValue (c : Char) : Nat := c.toNat - '0'.toNat

/-- The number written by a run of digits, continuing from `start`. -/
def foldDigits (start : Nat) (cs : List Char) : Nat :=
  cs.foldl (fun n c => 10 * n + digitValue c) start

/-- The exponent after the mantissa: nothing, or `e` with an optional sign and digits. -/
def readExponent? : List Char → Option Int
  | [] => some 0
  | c :: cs =>
    if c = 'e' ∨ c = 'E' then
      let (negative, ds) := match cs with
        | '-' :: ds => (true, ds)
        | '+' :: ds => (false, ds)
        | ds => (false, ds)
      if ds.isEmpty || !ds.all Char.isDigit then none
      else
        let n : Int := foldDigits 0 ds
        some (if negative then -n else n)
    else none

/-- Digits with at most one point and an optional exponent; at least one digit must be there. -/
def readMagnitude? (cs : List Char) : Option (Nat × Int) :=
  let whole := cs.takeWhile Char.isDigit
  let afterWhole := cs.dropWhile Char.isDigit
  let (places, rest) := match afterWhole with
    | '.' :: ds => (ds.takeWhile Char.isDigit, ds.dropWhile Char.isDigit)
    | ds => ([], ds)
  if whole.isEmpty && places.isEmpty then none
  else do
    let exponent ← readExponent? rest
    some (foldDigits (foldDigits 0 whole) places, exponent - places.length)

end Decimal

namespace Binary

variable {f : Format}

/-- The text of the magnitude `units`. -/
def magnitudeText (f : Format) (units : Nat) : List Char :=
  if units = 0 then ['0']
  else
    let (digits, exponent) := f.shortest units
    Decimal.positional digits exponent

/-- The text of a number. -/
def textChars : Binary f → List Char
  | .nan => ['N', 'a', 'N']
  | .infinite negative => if negative then ['-', 'i', 'n', 'f'] else ['i', 'n', 'f']
  | .finite negative units _ =>
    if negative then '-' :: magnitudeText f units else magnitudeText f units

/-- The text of a number. -/
def text (x : Binary f) : String :=
  String.ofList x.textChars

/-- A number without a sign: one of the words, in any case, or a decimal. -/
def readUnsigned? (negative : Bool) (cs : List Char) : Option (Binary f) :=
  let word := String.ofList (cs.map Char.toLower)
  if word = "inf" ∨ word = "infinity" then some (.infinite negative)
  else if word = "nan" then some .nan
  else do
    let (digits, exponent) ← Decimal.readMagnitude? cs
    some (Decimal.toBinary f ⟨negative, digits, exponent⟩)

/-- The number a text stands for, rounded to the format. -/
def readChars? : List Char → Option (Binary f)
  | '-' :: cs => readUnsigned? true cs
  | '+' :: cs => readUnsigned? false cs
  | cs => readUnsigned? false cs

/-- The number a text stands for, rounded to the format. -/
def read? (s : String) : Option (Binary f) :=
  readChars? s.toList

end Binary

end Scriptlet
