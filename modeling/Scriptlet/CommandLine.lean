import Scriptlet.Interpreter

/-
  The command line: its arguments, and what each command writes.
  A script is run from a file or from an argument; without either, lines of the input are evaluated
  one after the other by one interpreter.
-/

namespace Scriptlet.CommandLine

/-- What the program is asked to do. -/
inductive Command where
  | run (path : String)
  | eval (source : String)
  | repl
deriving DecidableEq

/-- A command, and the call depth that the arguments ask for. -/
structure Invocation where
  command : Command
  depth : Option Nat
deriving DecidableEq

/-- What a run of the program leaves: its exit code and what it wrote. -/
structure Report where
  exit : Nat
  stdout : String
  stderr : String
deriving DecidableEq

/-- The variable of the surroundings that sets the call depth. -/
def depthVariable : String := "SPRIG_MAX_CALL_DEPTH"

/-- What is written before a line is read. -/
def prompt : String := "sprig> "

/-! ## Arguments -/

/-- The option that sets the call depth. -/
def depthOption : String := "--max-call-depth"

/-- What follows `start` in `cs`, if `cs` begins so. -/
def after? (start cs : List Char) : Option (List Char) :=
  if start.isPrefixOf cs then some (cs.drop start.length) else none

/-- The value of the depth option and the arguments after it, if the option comes next; `none` on
the inside if its value is missing or is no number. -/
def takeDepth? : List String → Option (Option (Nat × List String))
  | [] => none
  | arg :: rest =>
    if arg = depthOption then
      match rest with
      | [] => some none
      | value :: rest => some ((Settings.readSize? value.toList).map (·, rest))
    else
      (after? (depthOption ++ "=").toList arg.toList).map fun value =>
        (Settings.readSize? value).map (·, rest)

/-- Whether an argument is taken for an option. -/
def looksLikeOption (arg : String) : Bool :=
  arg.toList.head? == some '-' && arg != "-"

theorem length_lt_of_takeDepth? {args rest : List String} {n : Nat}
    (h : takeDepth? args = some (some (n, rest))) : rest.length < args.length := by
  cases args with
  | nil => simp [takeDepth?] at h
  | cons arg args =>
    unfold takeDepth? at h
    dsimp only at h
    split at h
    · cases args with
      | nil => simp at h
      | cons value tail =>
        simp only [Option.some.injEq, Option.map_eq_some_iff, Prod.mk.injEq] at h
        obtain ⟨_, _, _, rfl⟩ := h
        simp only [List.length_cons]
        omega
    · simp only [Option.map_eq_some_iff, Prod.mk.injEq] at h
      obtain ⟨_, _, _, _, _, rfl⟩ := h
      simp

/-- The positional arguments of a command and its depth option, which may be given once; after a
double dash every argument is positional. -/
def operands? (depth : Option Nat) (args : List String) : Option (List String × Option Nat) :=
  match _taken : takeDepth? args with
  | some none => none
  | some (some (n, rest)) => if depth.isSome then none else operands? (some n) rest
  | none =>
    match args with
    | [] => some ([], depth)
    | arg :: rest =>
      if arg = "--" then some (rest, depth)
      else if looksLikeOption arg then none
      else (operands? depth rest).map fun (found, depth) => (arg :: found, depth)
termination_by args.length
decreasing_by
  · exact length_lt_of_takeDepth? _taken
  · simp

/-- The command of the given name with the given positional arguments. -/
def command? (name : String) (operands : List String) : Option Command :=
  match name, operands with
  | "run", [path] => if path.isEmpty then none else some (.run path)
  | "eval", [source] => some (.eval source)
  | "repl", [] => some .repl
  | _, _ => none

/-- The invocation that the arguments ask for, with a depth option before the command: one after
the command counts more. -/
def invocation? (depth : Option Nat) (args : List String) : Option Invocation :=
  match _taken : takeDepth? args with
  | some none => none
  | some (some (n, rest)) => if depth.isSome then none else invocation? (some n) rest
  | none =>
    match args with
    | [] => some ⟨.repl, depth⟩
    | name :: rest =>
      if name = "--" then if rest.isEmpty then some ⟨.repl, depth⟩ else none
      else do
        let (operands, inner) ← operands? none rest
        let command ← command? name operands
        some ⟨command, inner <|> depth⟩
termination_by args.length
decreasing_by exact length_lt_of_takeDepth? _taken

/-- The invocation that the arguments ask for. -/
def parse? (args : List String) : Option Invocation :=
  invocation? none args

/-- The settings of an invocation: the depth option, or else the surroundings. -/
def Invocation.settings (inv : Invocation) (setting : Option String) : Settings :=
  match inv.depth with
  | some depth => { maxCallDepth := depth }
  | none => .ofSurroundings setting

/-! ## Output -/

/-- The printed lines among entries, each with its line end. -/
def printedText (entries : List Entry) : String :=
  String.join (entries.map fun
    | .line text => text ++ "\n"
    | _ => "")

/-- What is written for a value; nothing for void. -/
def valueText (v : Value) : String :=
  if v.isVoid then "" else v.text ++ "\n"

/-- What is written for a failure. -/
def failureText (e : Failure) : String :=
  "error: " ++ e.text ++ "\n"

/-- What is written when an evaluation is given up. -/
def fuelText : String := "error: evaluation takes too long\n"

/-- The report of a source evaluated by a new interpreter. -/
def evaluate (fuel : Nat) (settings : Settings) (source : String) : Report :=
  match Interpreter.execute fuel State.root source (.initial settings) with
  | .value v s => ⟨0, printedText s.transcript ++ valueText v, ""⟩
  | .failure e s => ⟨1, printedText s.transcript, failureText e⟩
  | .outOfFuel => ⟨1, "", fuelText⟩

/-- The report of a file that holds a script, or cannot be read. -/
def runFile (fuel : Nat) (settings : Settings) (content : Except String String) : Report :=
  match content with
  | .ok source => evaluate fuel settings source
  | .error reason => ⟨1, "", failureText (.io reason)⟩

/-- The text in the bytes of a file. -/
def decode (bytes : ByteArray) : Except String String :=
  match String.fromUTF8? bytes with
  | some text => .ok text
  | none => .error "stream did not contain valid UTF-8"

/-- How a line of the input is answered: what is written to the output and to the error output, and
the state for the next line; nothing if the line ends the conversation. -/
def answer? (fuel : Nat) (s : State) (line : String) : Option (String × String × State) :=
  let source := String.ofList (Text.trim line.toList)
  if source = ":quit" ∨ source = ":exit" then none
  else if source.isEmpty then some ("", "", s)
  else
    match Interpreter.execute fuel State.root source { s with recorded := [] } with
    | .value v s => some (printedText s.transcript ++ valueText v, "", s)
    | .failure e s => some (printedText s.transcript, failureText e, s)
    | .outOfFuel => some ("", fuelText, s)

/-- The report of a conversation over the given lines. -/
def converse (fuel : Nat) (s : State) (out err : String) : List String → Report
  | [] => ⟨0, out ++ prompt, err⟩
  | line :: rest =>
    match answer? fuel s line with
    | none => ⟨0, out ++ prompt, err⟩
    | some (text, complaint, s) => converse fuel s (out ++ prompt ++ text) (err ++ complaint) rest

/-- The lines of a text; what follows the last line end is a line only if it is not empty. -/
def linesOf : List Char → List (List Char)
  | [] => []
  | c :: rest =>
    if c = '\n' then [] :: linesOf rest
    else
      match linesOf rest with
      | [] => [[c]]
      | line :: lines => (c :: line) :: lines

/-- The report of an invocation, given the setting of the surroundings, the files and the input. -/
def Invocation.perform (fuel : Nat) (inv : Invocation) (setting : Option String)
    (file : String → Except String String) (input : String) : Report :=
  let settings := inv.settings setting
  match inv.command with
  | .run path => runFile fuel settings (file path)
  | .eval source => evaluate fuel settings source
  | .repl => converse fuel (.initial settings) "" "" ((linesOf input.toList).map String.ofList)

end Scriptlet.CommandLine
