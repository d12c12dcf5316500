import ActionPlan.Cli.Run

/-!
# The Command Line

The program compiles the instruction in its arguments and prints the graphs. It opens no
connection, so a model is never reached, and it looks at no folder, so the paths of a plan
are judged as they are written.
-/

namespace ActionPlan

namespace Cli

/-- The text of a file, or the reason why it cannot be read. -/
def readText (path : String) : IO (Except String String) := do
  try
    return .ok (← IO.FS.readFile path)
  catch
    | .noFileOrDirectory .. => return .error "No such file or directory (os error 2)"
    | e => return .error (toString e)

/-- The system that the program runs on. Output takes colour on a terminal, unless the
    environment says otherwise. -/
def system : IO (Surroundings IO) := do
  let color := (← (← IO.getStdout).isTty) && (← IO.getEnv "NO_COLOR").isNone
  return {
    fileText := readText
    client := fun _ _ => return .error (.connection "no connection can be opened")
    disk := {}
    color := color }

end Cli

end ActionPlan

/-- Runs with the arguments of the command line. -/
def main (arguments : List String) : IO UInt32 := do
  let system ← ActionPlan.Cli.system
  let outcome ← ActionPlan.Cli.run system arguments
  IO.print outcome.output
  if let some line := outcome.complaint? system.color then
    IO.eprintln line
  return outcome.exitCode.toUInt32
