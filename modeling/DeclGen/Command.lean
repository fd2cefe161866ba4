import DeclGen.Command.Arguments
import DeclGen.Generation

/-!
# DeclGen.Command

The command line: the first argument names a command, and the help text is what
is shown where no command is named.
-/

namespace DeclGen

namespace Command

/-- What a run of the program shows, and its exit code. -/
structure Outcome where
  stdout : String
  stderr : String
  exitCode : UInt32
  deriving DecidableEq, Repr

/-- The commands. -/
inductive Request where
  | help
  | generate (args : List String)
  | unknown (name : String)
  deriving DecidableEq, Repr

/-- The command that arguments name. -/
def Request.ofArgs : List String → Request
  | [] => help
  | name :: args =>
    if name = "generate" then generate args
    else if name = "--help" ∨ name = "-h" ∨ name = "help" then help
    else unknown name

/-- The lines of the help text. -/
def helpLines : List String :=
  [programName ++ " v" ++ programVersion,
    "",
    "USAGE:",
    "    typings-gen <COMMAND> [OPTIONS]",
    "",
    "COMMANDS:",
    "    generate <model>  Emit TypeScript declarations from a YAML/JSON model",
    "    help              Print this help message",
    "",
    "OPTIONS (generate):",
    "    -c, --config <file>  typings.toml (default: $TYPINGS_CONFIG)",
    "    -o, --out <file>     Write to file instead of stdout",
    "",
    "EXAMPLES:",
    "    typings-gen generate api.yaml --config typings.toml --out api.d.ts",
    ""]

/-- The help text. -/
def helpText : String := String.join (helpLines.map (· ++ "\n"))

/-- What is shown where an error ends the run. -/
def Outcome.ofError (description : String) : Outcome :=
  ⟨"", "[ERROR] " ++ description ++ "\n", 1⟩

variable {m : Type → Type} [Monad m]

/-- What a generation prints: the report if there is a file to write, and the
declarations otherwise. -/
def generate (fs : FileSystem m) (time : String) (args : Arguments) :
    ExceptT GenerationError m String := do
  let generator ← Generator.load fs args.config
  match args.out with
  | some out => do pure (← generator.generateFile fs args.model out time).summary
  | none => do pure (← generator.generateFrom fs args.model time).content

/-- Runs the program at a time; `config` is the path of the settings where no
option gives it. -/
def run (fs : FileSystem m) (time : String) (config : Option Path) (args : List String) :
    m Outcome :=
  match Request.ofArgs args with
  | .help => pure ⟨helpText, "", 0⟩
  | .unknown name => pure ⟨helpText, "Unknown command: " ++ name ++ "\n", 1⟩
  | .generate args => match Arguments.parse config args with
    | .error e => pure (.ofError e.message)
    | .ok args => do
      match ← (generate fs time args).run with
      | .ok text => pure ⟨text, "", 0⟩
      | .error e => pure (.ofError e.describe)

end Command

end DeclGen
