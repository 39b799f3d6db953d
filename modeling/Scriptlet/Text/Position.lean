import Scriptlet.Text.CharClass

/-
  Places in a source text: byte spans, and the line and column of a byte offset.
  Only the line feed ends a line; columns count characters.
-/

namespace Scriptlet

/-- A stretch of the source in bytes: `start` is its first byte, `stop` the byte after its last. -/
structure Span where
  start : Nat
  stop : Nat
deriving DecidableEq, Inhabited

namespace Span

/-- The empty span at the beginning, for what was not written in any source. -/
def zero : Span := ⟨0, 0⟩

/-- The span from the start of `a` to the stop of `b`. -/
def through (a b : Span) : Span := ⟨a.start, b.stop⟩

@[simp] theorem through_start (a b : Span) : (a.through b).start = a.start := rfl

@[simp] theorem through_stop (a b : Span) : (a.through b).stop = b.stop := rfl

end Span

/-- A line and a column, both counted from 1. -/
structure Position where
  line : Nat
  column : Nat
deriving DecidableEq, Inhabited

namespace Position

/-- The beginning of every text. -/
def first : Position := ⟨1, 1⟩

/-- The position after `c`. -/
def next (p : Position) (c : Char) : Position :=
  if c = '\n' then ⟨p.line + 1, 1⟩ else ⟨p.line, p.column + 1⟩

/-- The position `count` bytes further on; a character that is begun is passed, and so the
position stays inside the text. -/
def advance (p : Position) : List Char → Nat → Position
  | [], _ => p
  | c :: cs, count => if count = 0 then p else (p.next c).advance cs (count - c.utf8Size)

/-- The position of the byte `offset` of `source`. -/
def locate (source : String) (offset : Nat) : Position :=
  first.advance source.toList offset

/-- The written form of a position. -/
def text (p : Position) : String :=
  s!"line {p.line}, column {p.column}"

end Position

end Scriptlet
