import DeclGen.Emission
import DeclGen.Model.File
import DeclGen.Model.Interfaces
import DeclGen.Report
import DeclGen.Settings.File

/-!
# DeclGen.Generation

From a model to a declarations file: a header, then the declarations of the
model's interfaces in their order, with an empty line before each.

1. A generator is made from validated settings and used for any number of
   models.
2. A model is turned into interfaces before any of them is emitted; the first
   failure ends the generation.
3. A file is written after everything else has succeeded.
-/

namespace DeclGen

/-- The name and the version that stand in headers and in the help text. -/
def programName : String := "typings-gen"

/-- The version of the program. -/
def programVersion : String := "0.3.0"

/-! ## errors -/

/-- Why nothing is generated. -/
inductive GenerationError where
  | settings (flaw : SettingsFlaw)
  | settingsFile (path : Path) (cause : SettingsFileError)
  | modelFile (cause : ModelFileError)
  | model (cause : ModelError)
  | emission (interface : String) (cause : InferError)
  | directory (path : Path) (cause : FileError)
  | output (path : Path) (cause : FileError)

namespace GenerationError

/-- The wordings of an error, from the outermost cause to the innermost. -/
def messages : GenerationError → List String
  | settings flaw => ["Invalid typings configuration", flaw.message]
  | settingsFile path cause => ("Failed to load " ++ path.text) :: cause.messages
  | modelFile cause => cause.messages
  | model cause => cause.messages
  | emission interface cause => ["Failed to emit " ++ interface, cause.message]
  | directory path cause => ["Failed to create " ++ path.text, cause.message]
  | output path cause => ["Failed to write " ++ path.text, cause.message]

/-- An error in one line. -/
def describe (e : GenerationError) : String := ": ".intercalate e.messages

end GenerationError

/-! ## declarations -/

/-- The lines at the top of a declarations file. -/
def header (source time : String) : String :=
  "// Generated by " ++ programName ++ " " ++ programVersion ++ " on " ++ time ++ "\n" ++
    "// Source: " ++ source ++ "\n" ++
    "// Do not edit by hand.\n"

/-- Declarations, with an empty line before each. -/
def body (declarations : List String) : String := String.join (declarations.map ("\n" ++ ·))

/-- The text of a declarations file, and the account of it. -/
structure Generated where
  content : String
  report : Report

/-- What generates declarations under settings. -/
structure Generator where
  resolver : Resolver
  layout : EmitSettings

namespace Generator

variable {m : Type → Type} [Monad m]

/-! ## from settings -/

/-- The generator for settings, which are validated first. -/
def ofSettings (s : Settings) : Except GenerationError Generator :=
  match s.validate with
  | .ok () => .ok ⟨.ofSettings s.resolver, s.emit⟩
  | .error flaw => .error (.settings flaw)

/-- The generator for the settings in a file, or for those that hold where none
are given. -/
def load (fs : FileSystem m) (path : Option Path) : ExceptT GenerationError m Generator := do
  let settings ← match path with
    | some path => (Settings.load fs path).adapt (.settingsFile path)
    | none => pure .default
  ofSettings settings

/-! ## to declarations -/

/-- The declaration of an interface. -/
def declare (g : Generator) (i : Interface m) : ExceptT GenerationError m String :=
  (i.emit g.resolver g.layout).adapt (.emission i.qualifiedName)

/-- The declarations of interfaces, generated at a time from a named source. -/
def declareAll (g : Generator) (interfaces : List (Interface m)) (source time : String) :
    ExceptT GenerationError m Generated := do
  let declarations ← interfaces.mapM g.declare
  pure ⟨header source time ++ body declarations, .ofInterfaces interfaces⟩

/-- The declarations of a model, generated at a time from a named source. -/
def generate (g : Generator) (model : Model) (source time : String) :
    ExceptT GenerationError m Generated :=
  match (model.toInterfaces : Except ModelError (List (Interface m))) with
  | .ok interfaces => g.declareAll interfaces source time
  | .error cause => throw (.model cause)

/-! ## from and to files -/

/-- The declarations of the model in a file, which is the source they name. -/
def generateFrom (g : Generator) (fs : FileSystem m) (model : Path) (time : String) :
    ExceptT GenerationError m Generated := do
  g.generate (← (Model.load fs model).adapt .modelFile) model.text time

/-- Makes the directory that a file is to be in. -/
def makeRoom (fs : FileSystem m) (out : Path) : ExceptT GenerationError m Unit :=
  match out.parent? with
  | some parent =>
    if parent.text.isEmpty then pure ()
    else (fs.createDirectories parent).adapt (.directory parent)
  | none => pure ()

/-- Writes the declarations of the model in a file to another file. -/
def generateFile (g : Generator) (fs : FileSystem m) (model out : Path) (time : String) :
    ExceptT GenerationError m Report := do
  let generated ← g.generateFrom fs model time
  makeRoom fs out
  (fs.write out generated.content).adapt (.output out)
  pure generated.report

end Generator

end DeclGen
