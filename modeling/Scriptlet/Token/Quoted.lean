/-
  Quoted text: a string literal stands between double quotes, and a quote inside it is written
  after a backslash.
-/

namespace Scriptlet.Quoted

/-- The text with a backslash before each quote. -/
def escape : List Char → List Char
  | [] => []
  | c :: cs => if c = '"' then '\\' :: '"' :: escape cs else c :: escape cs

/-- The text with each backslash before a quote left out. -/
def unescape : List Char → List Char
  | [] => []
  | '\\' :: '"' :: cs => '"' :: unescape cs
  | c :: cs => c :: unescape cs

/-- The literal of a text. -/
def quoteChars (cs : List Char) : List Char :=
  '"' :: (escape cs ++ ['"'])

/-- What stands between the quotes; a text that is not in quotes stands for itself. -/
def inside (cs : List Char) : List Char :=
  match cs with
  | '"' :: rest => if rest.getLast? = some '"' then rest.dropLast else cs
  | cs => cs

/-- The text of a literal. -/
def unquoteChars (cs : List Char) : List Char :=
  unescape (inside cs)

/-- The text of a literal. -/
def unquote (literal : String) : String :=
  String.ofList (unquoteChars literal.toList)

/-- The literal of a text. -/
def quote (s : String) : String :=
  String.ofList (quoteChars s.toList)

end Scriptlet.Quoted
