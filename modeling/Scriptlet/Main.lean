import Scriptlet.CommandLine

/-
  The program: arguments, files and streams of the machine for the command line.
-/

namespace Scriptlet.Main

open CommandLine

/-- The content of a file, or why it cannot be read. -/
def readScript (path : String) : IO (Except String String) := do
  try
    return decode (← IO.FS.readBinFile path)
  catch
    | .noFileOrDirectory .. => return .error "No such file or directory (os error 2)"
    | .permissionDenied .. => return .error "Permission denied (os error 13)"
    | e => return .error (toString e)

/-- Writes a report and ends with its exit code. -/
def write (report : Report) : IO UInt32 := do
  (← IO.getStdout).putStr report.stdout
  (← IO.getStderr).putStr report.stderr
  return report.exit.toUInt32

/-- Answers the lines of the input as they come. -/
partial def converse (s : State) : IO Unit := do
  let out ← IO.getStdout
  out.putStr prompt
  out.flush
  let line ← (← IO.getStdin).getLine
  if line.isEmpty then return
  match answer? Interpreter.ampleFuel s line with
  | none => return
  | some (text, complaint, s) =>
    out.putStr text
    (← IO.getStderr).putStr complaint
    converse s

/-- Does what the arguments ask for. -/
def run (args : List String) : IO UInt32 := do
  match parse? args with
  | none =>
    (← IO.getStderr).putStr
      "usage: [--max-call-depth N] run FILE | eval SOURCE | repl\n"
    return 2
  | some inv =>
    let settings := inv.settings (← IO.getEnv depthVariable)
    match inv.command with
    | .run path => write (runFile Interpreter.ampleFuel settings (← readScript path))
    | .eval source => write (evaluate Interpreter.ampleFuel settings source)
    | .repl =>
      converse (.initial settings)
      return 0

end Scriptlet.Main

def main (args : List String) : IO UInt32 :=
  Scriptlet.Main.run args
