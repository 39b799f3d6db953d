import Scriptlet.Text.Position

/-
  Tokens: the words, operators, literals and names that a source text falls into.
-/

namespace Scriptlet

/-- The kinds of tokens. -/
inductive TokenKind where
  | number
  | string
  | identifier
  | varWord
  | ifWord
  | elseWord
  | whileWord
  | returnWord
  | breakWord
  | continueWord
  | trueWord
  | falseWord
  | nullWord
  | andWord
  | orWord
  | notWord
  | plus
  | minus
  | times
  | divide
  | modulo
  | equals
  | greater
  | less
  | greaterEqual
  | lessEqual
  | equalEqual
  | notEqual
  | leftParen
  | rightParen
  | comma
  | semicolon
  | leftBrace
  | rightBrace
  | endOfInput
deriving DecidableEq, Inhabited

namespace TokenKind

/-- The text of a kind that is always written alike. -/
def spelling? : TokenKind → Option String
  | .number | .string | .identifier | .endOfInput => none
  | .varWord => some "var"
  | .ifWord => some "if"
  | .elseWord => some "else"
  | .whileWord => some "while"
  | .returnWord => some "return"
  | .breakWord => some "break"
  | .continueWord => some "continue"
  | .trueWord => some "true"
  | .falseWord => some "false"
  | .nullWord => some "null"
  | .andWord => some "and"
  | .orWord => some "or"
  | .notWord => some "not"
  | .plus => some "+"
  | .minus => some "-"
  | .times => some "*"
  | .divide => some "/"
  | .modulo => some "%"
  | .equals => some "="
  | .greater => some ">"
  | .less => some "<"
  | .greaterEqual => some ">="
  | .lessEqual => some "<="
  | .equalEqual => some "=="
  | .notEqual => some "!="
  | .leftParen => some "("
  | .rightParen => some ")"
  | .comma => some ","
  | .semicolon => some ";"
  | .leftBrace => some "\x7b"
  | .rightBrace => some "\x7d"

/-- The name of a kind in the list of what would have been accepted. -/
def label (kind : TokenKind) : String :=
  match kind.spelling? with
  | some word => "`" ++ word ++ "`"
  | none =>
    match kind with
    | .number => "number"
    | .string => "string"
    | .identifier => "identifier"
    | _ => "end of input"

/-- The reserved words. -/
def keywords : List TokenKind :=
  [.varWord, .ifWord, .elseWord, .whileWord, .returnWord, .breakWord, .continueWord, .trueWord,
   .falseWord, .nullWord, .andWord, .orWord, .notWord]

/-- The operators of two characters. -/
def twoCharOperators : List TokenKind :=
  [.equalEqual, .notEqual, .greaterEqual, .lessEqual]

/-- The operators and delimiters of one character. -/
def oneCharOperators : List TokenKind :=
  [.plus, .minus, .times, .divide, .modulo, .equals, .greater, .less, .leftParen, .rightParen,
   .comma, .semicolon, .leftBrace, .rightBrace]

/-- The characters of the fixed text of a kind; none for the kinds without one. -/
def spellingChars (kind : TokenKind) : List Char :=
  (kind.spelling?.getD "").toList

end TokenKind

/-- A token: its kind, its text and where it stands. -/
structure Token where
  kind : TokenKind
  lexeme : String
  span : Span
deriving DecidableEq, Inhabited

/-- The token after the last one of a source of the given size. -/
def Token.atEnd (size : Nat) : Token :=
  ⟨.endOfInput, "", ⟨size, size⟩⟩

/-- The token with its span at the beginning. -/
def Token.unspanned (t : Token) : Token := { t with span := .zero }

end Scriptlet
