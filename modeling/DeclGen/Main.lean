import Std.Time.Format
import DeclGen.Command

/-!
# DeclGen.Main

The program, on the files of the machine it runs on.
-/

namespace DeclGen

/-- An action with its failure as a value. -/
def ofAction {α : Type} (action : IO α) : ExceptT FileError IO α := do
  match ← action.toBaseIO with
  | .ok a => pure a
  | .error e => throw (.other (toString e))

/-- The operations on files. -/
def diskFileSystem : FileSystem IO where
  read path := ofAction (IO.FS.readFile path.text)
  createDirectories path := ofAction (IO.FS.createDirAll path.text)
  write path text := ofAction (IO.FS.writeFile path.text text)

/-- The time in the format of headers. -/
def currentTime : IO String := do
  let time ← Std.Time.DateTime.now
  pure (time.format "uuuu-MM-dd\x27T\x27HH:mm:ss.SSSSSSSSSxxx")

/-- Runs the program with the arguments of a command line. -/
def runProgram (args : List String) : IO UInt32 := do
  let config := (← IO.getEnv "TYPINGS_CONFIG").map Path.mk
  let outcome ← Command.run diskFileSystem (← currentTime) config args
  (← IO.getStdout).putStr outcome.stdout
  (← IO.getStderr).putStr outcome.stderr
  pure outcome.exitCode

end DeclGen

/-- Runs the program. -/
def main (args : List String) : IO UInt32 := DeclGen.runProgram args
