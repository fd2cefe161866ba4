import DeclGen.FileSystem
import DeclGen.Settings.Toml

/-!
# DeclGen.Settings.File

Settings in a file, which is a TOML document.
-/

namespace DeclGen

/-- Why a file gives no settings. -/
inductive SettingsFileError where
  | file (cause : FileError)
  | settings (cause : SettingsError)
  deriving DecidableEq

/-- The wordings of an error, from the outermost cause to the innermost. -/
def SettingsFileError.messages : SettingsFileError → List String
  | .file cause => ["I/O error: " ++ cause.message, cause.message]
  | .settings .syntaxOrShape => ["TOML parse error"]
  | .settings (.flaw flaw) => [flaw.message]

/-- The validated settings in a file. -/
def Settings.load {m : Type → Type} [Monad m] (fs : FileSystem m) (path : Path) :
    ExceptT SettingsFileError m Settings := do
  let document ← (fs.read path).adapt .file
  match parse document with
  | .ok settings => pure settings
  | .error cause => throw (.settings cause)

end DeclGen
