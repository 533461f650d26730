import QueryTemplate.CommandLine.Run
import QueryTemplate.Library.Document

/-!
# The program

Reads the command from the arguments and the definition file that it names, carries the command
out and writes what it answers: its output, and its notices except those for tracing.
-/

namespace QueryTemplate.CommandLine

/-- How the program is called. -/
def usageText : String :=
  "usage: list [--path FILE] | show NAME [--path FILE] | build NAME [--params JSON] [--path FILE]"

/-- The path that a command gives. -/
def Command.path? : Command → Option String
  | .list path => path
  | .show _ path => path
  | .build _ _ path => path
  | .nothing => none

/-- The definition file at a path, if there is one that can be read. -/
def readNode (path : String) : IO (Option FileNode) := do
  try
    let source ← IO.FS.readFile path
    return some (.file (.ofDocument source))
  catch _ => return none

/-- Writes an answer and gives its exit code. -/
def Answer.write (a : Answer) : IO UInt32 := do
  for n in a.notices do
    if n.level != .debug then IO.eprintln n.message
  IO.print a.output
  return a.exitCode.toUInt32

end QueryTemplate.CommandLine

open QueryTemplate QueryTemplate.CommandLine in
/-- Carries out the command that the arguments make. -/
def main (arguments : List String) : IO UInt32 := do
  match Command.ofArguments arguments with
  | .error .help => IO.println usageText; return 0
  | .error .usage => IO.eprintln usageText; return 2
  | .ok command =>
    let defaultPath ← IO.getEnv "STATEMENTS_PATH"
    let given := command.path?.getD ""
    let path := if given = "" then defaultPath.getD "" else given
    let node ← if path = "" then pure none else readNode path
    match command.run ⟨fun _ => node, defaultPath⟩ with
    | .ok answer =>
      if command = .nothing then IO.println usageText
      answer.write
    | .error (.engine e) => IO.eprintln e.message; return 1
    | .error (.template e) => IO.eprintln e.message; return 1
    | .error (.load e) => IO.eprintln e.message; return 1
    | .error (.params e) => IO.eprintln e.message; return 1
