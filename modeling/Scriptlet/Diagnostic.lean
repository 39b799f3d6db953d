import Scriptlet.Text.Position

/-
  Diagnostics: what went wrong, where, what would have been accepted, and remarks.
  A failure is a diagnostic, or the text of an input or output error of the host.
-/

namespace Scriptlet

/-- The kinds of diagnostics. -/
inductive DiagnosticKind where
  | lexer
  | parser
  | unresolvedName
  | arity
  | typeMismatch
  | voidMisuse
  | arithmetic
  | conversion
  | registration
  | resource
  | controlFlow
deriving DecidableEq

/-- The name of a kind, as a diagnostic's text begins. -/
def DiagnosticKind.name : DiagnosticKind → String
  | .lexer => "Lexer"
  | .parser => "Parser"
  | .unresolvedName => "UnresolvedName"
  | .arity => "Arity"
  | .typeMismatch => "TypeMismatch"
  | .voidMisuse => "VoidMisuse"
  | .arithmetic => "Arithmetic"
  | .conversion => "Conversion"
  | .registration => "Registration"
  | .resource => "Resource"
  | .controlFlow => "ControlFlow"

/-- A diagnostic. -/
structure Diagnostic where
  kind : DiagnosticKind
  message : String
  span : Option Span := none
  position : Option Position := none
  expected : List String := []
  notes : List String := []
deriving DecidableEq

namespace Diagnostic

/-- The diagnostic with the given span. -/
def withSpan (d : Diagnostic) (span : Span) : Diagnostic :=
  { d with span := some span }

/-- The diagnostic with the given position. -/
def withPosition (d : Diagnostic) (position : Position) : Diagnostic :=
  { d with position := some position }

/-- The diagnostic with more labels of what would have been accepted. -/
def withExpected (d : Diagnostic) (labels : List String) : Diagnostic :=
  { d with expected := d.expected ++ labels }

/-- The diagnostic with one more note. -/
def withNote (d : Diagnostic) (note : String) : Diagnostic :=
  { d with notes := d.notes ++ [note] }

/-- The diagnostic with the position of its span in `source`, if it has a span and no position. -/
def locatedIn (d : Diagnostic) (source : String) : Diagnostic :=
  match d.position, d.span with
  | none, some span => d.withPosition (.locate source span.start)
  | _, _ => d

/-- The diagnostic with the given span unless it has one. -/
def orSpan (d : Diagnostic) (span : Span) : Diagnostic :=
  if d.span.isNone then d.withSpan span else d

/-- Where a diagnostic points, in its text: the position if there is one, else the span. -/
def placeText (d : Diagnostic) : String :=
  match d.position, d.span with
  | some position, _ => " at " ++ position.text
  | none, some span => s!" ({span.start}..{span.stop})"
  | none, none => ""

/-- The accepted labels in a diagnostic's text. -/
def expectedText (d : Diagnostic) : String :=
  if d.expected.isEmpty then "" else "; expected " ++ ", ".intercalate d.expected

/-- The notes in a diagnostic's text, each on a line of its own. -/
def notesText (d : Diagnostic) : String :=
  if d.notes.isEmpty then "" else "\n" ++ String.join (d.notes.map fun n => "  note: " ++ n ++ "\n")

/-- The text of a diagnostic. -/
def text (d : Diagnostic) : String :=
  d.kind.name ++ ": " ++ d.message ++ d.placeText ++ d.expectedText ++ d.notesText

end Diagnostic

/-- What ends an evaluation that has no value. -/
inductive Failure where
  | diagnostic (d : Diagnostic)
  | io (reason : String)
deriving DecidableEq

namespace Failure

/-- The failure with the given span, if it is a diagnostic without one. -/
def orSpan (e : Failure) (span : Span) : Failure :=
  match e with
  | .diagnostic d => .diagnostic (d.orSpan span)
  | .io reason => .io reason

/-- The failure with one more note, if it is a diagnostic. -/
def withNote (e : Failure) (note : String) : Failure :=
  match e with
  | .diagnostic d => .diagnostic (d.withNote note)
  | .io reason => .io reason

/-- The text of a failure. -/
def text : Failure → String
  | .diagnostic d => d.text
  | .io reason => "I/O error: " ++ reason

end Failure

end Scriptlet
