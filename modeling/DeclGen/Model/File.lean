import DeclGen.FileSystem
import DeclGen.Model.Json
import DeclGen.Model.Yaml

/-!
# DeclGen.Model.File

Models in files: in JSON where the file's extension says so, in YAML otherwise.
-/

namespace DeclGen

/-- The format of a model file. -/
inductive ModelFormat where
  | json
  | yaml
  deriving DecidableEq, Repr

namespace ModelFormat

/-- The format of the file with a path. -/
def ofPath (path : Path) : ModelFormat := if path.hasExtension "json" then json else yaml

/-- The name of a format. -/
def name : ModelFormat → String
  | json => "JSON"
  | yaml => "YAML"

/-- The model that a text holds. -/
def parse? : ModelFormat → String → Option Model
  | json => Model.parseJson?
  | yaml => Model.parseYaml?

end ModelFormat

/-- Why a file gives no model. -/
inductive ModelFileError where
  | file (path : Path) (cause : FileError)
  /-- The text in the file is no model in the file's format. -/
  | format (path : Path) (expected : ModelFormat)
  deriving DecidableEq

/-- The wordings of an error, from the outermost to the innermost cause. -/
def ModelFileError.messages : ModelFileError → List String
  | .file path cause => ["Failed to read model " ++ path.text, cause.message]
  | .format path expected =>
    ["Failed to parse " ++ expected.name ++ " model " ++ path.text, "not a model"]

/-- The model in a file. -/
def Model.load {m : Type → Type} [Monad m] (fs : FileSystem m) (path : Path) :
    ExceptT ModelFileError m Model := do
  let text ← (fs.read path).adapt (.file path)
  match (ModelFormat.ofPath path).parse? text with
  | some model => pure model
  | none => throw (.format path (.ofPath path))

end DeclGen
