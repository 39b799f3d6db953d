import Scriptlet.Run.Evaluation

/-
  Interpreters: their settings, the state they begin with, and what a host can do with one.
-/

namespace Scriptlet

/-- What is fixed when an interpreter is made. -/
structure Settings where
  maxCallDepth : Nat := 512
  library : MathLibrary := .standard

namespace Settings

/-- The number that decimal digits with an optional plus sign write, if it fits 64 bits. -/
def readSize? (cs : List Char) : Option Nat :=
  let digits := match cs with
    | '+' :: rest => rest
    | rest => rest
  if digits.isEmpty || !digits.all Char.isDigit then none
  else
    let n := Decimal.foldDigits 0 digits
    if n < UInt64.size then some n else none

/-- The call depth that a setting in the surroundings asks for: a positive number, blanks around it
left out. -/
def depthOf? (setting : String) : Option Nat :=
  (readSize? (Text.trim setting.toList)).filter (0 < ·)

/-- The default settings, with the call depth that a setting in the surroundings asks for. -/
def ofSurroundings (setting : Option String) : Settings :=
  match setting.bind depthOf? with
  | some depth => { maxCallDepth := depth }
  | none => {}

end Settings

namespace State

/-- The constants that every root begins with. -/
def constants : Bindings Value :=
  (Bindings.empty.insert "PI" (.number (Decimal.toBinary .single ⟨false, 31415926, -7⟩))).insert
    "E" (.number (Decimal.toBinary .single ⟨false, 271828, -5⟩))

/-- Records each printed line. -/
def recordLine (line : String) : HostAction :=
  .record (.line line) (.value .void)

/-- The state of a new interpreter. -/
def initial (settings : Settings) : State where
  scopes := #[⟨constants, none⟩]
  frames := #[]
  functions := Bindings.empty.insert "print" (.native .print)
  library := settings.library
  maxCallDepth := settings.maxCallDepth
  depth := 0
  handler := recordLine
  handling := false
  recorded := []

/-- What was recorded, oldest first. -/
def transcript (s : State) : List Entry :=
  s.recorded.reverse

end State

namespace Interpreter

/-- A fuel that no evaluation of practical length uses up. -/
def ampleFuel : Nat := 1 <<< 60

/-- Executes a source in an environment. -/
def execute (fuel : Nat) (scope : ScopeId) (source : String) : Run Value :=
  runSource (serve fuel) scope source

/-- Executes a program in an environment. -/
def executeProgram (fuel : Nat) (scope : ScopeId) (p : Program) : Run Value :=
  runProgram (serve fuel) scope p

/-- Calls a function by name from an environment. -/
def callFunction (fuel : Nat) (scope : ScopeId) (name : String) (args : List Value) : Run Value :=
  callNamed (serve fuel) scope name args .zero

/-- Calls a function of the host directly, without counting the call. -/
def callNative (fuel : Nat) (f : HostFunction) (args : List Value) : Run Value :=
  perform (serve fuel) (f.invoke args)

/-- Binds a variable of an environment for the host. -/
def define (scope : ScopeId) (name : String) (value : Value) : Run Unit :=
  .assign scope name value .zero

end Interpreter

end Scriptlet
