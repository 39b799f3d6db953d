import Scriptlet.Text.Alphabetic
import Scriptlet.Text.Numeric

/-
  Character classes of script text: blanks, letters and word characters.
  Each class is a Unicode property; letters and numerals are looked up in sorted range tables.
-/

namespace Scriptlet.Text

/-- Membership in a sorted list of closed ranges; the search stops at the first range above `n`. -/
def inRanges : List (Nat × Nat) → Nat → Bool
  | [], _ => false
  | (low, high) :: rest, n =>
    if n < low then false else if n ≤ high then true else inRanges rest n

/-- The characters with the property White_Space. -/
def blanks : List Char :=
  ['\t', '\n', '\x0b', '\x0c', '\r', ' ', '\u0085', '\u00a0', '\u1680', '\u2000', '\u2001',
   '\u2002', '\u2003', '\u2004', '\u2005', '\u2006', '\u2007', '\u2008', '\u2009', '\u200a',
   '\u2028', '\u2029', '\u202f', '\u205f', '\u3000']

/-- Whether `c` separates tokens. -/
def isBlank (c : Char) : Bool :=
  blanks.contains c

/-- Whether `c` is alphabetic. -/
def isLetter (c : Char) : Bool :=
  inRanges alphabeticRanges c.toNat

/-- Whether `c` is a decimal, letter-like or other numeral of any script. -/
def isNumeral (c : Char) : Bool :=
  inRanges numericRanges c.toNat

/-- Whether `c` may stand inside a word: a letter, a numeral or an underscore. -/
def isWordChar (c : Char) : Bool :=
  isLetter c || isNumeral c || c == '_'

/-- Whether `c` may begin a name: a letter or an underscore. -/
def isNameStart (c : Char) : Bool :=
  isLetter c || c == '_'

/-- A name's first character is a word character. -/
theorem isWordChar_of_isNameStart {c : Char} (h : isNameStart c = true) :
    isWordChar c = true := by
  simp only [isNameStart, Bool.or_eq_true] at h
  rcases h with h | h <;> simp [isWordChar, h]

/-- The text without the blanks at its two ends. -/
def trim (cs : List Char) : List Char :=
  ((cs.dropWhile isBlank).reverse.dropWhile isBlank).reverse

/-- The number of bytes of the UTF-8 form of a text. -/
def byteLength : List Char → Nat
  | [] => 0
  | c :: cs => c.utf8Size + byteLength cs

@[simp] theorem byteLength_nil : byteLength [] = 0 := rfl

@[simp] theorem byteLength_cons (c : Char) (cs : List Char) :
    byteLength (c :: cs) = c.utf8Size + byteLength cs := rfl

@[simp] theorem byteLength_append (xs ys : List Char) :
    byteLength (xs ++ ys) = byteLength xs + byteLength ys := by
  induction xs with
  | nil => simp
  | cons c xs ih => simp [ih, Nat.add_assoc]

end Scriptlet.Text
