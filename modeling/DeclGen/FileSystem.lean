import DeclGen.Path

/-!
# DeclGen.FileSystem

What a generation does with files: it reads whole texts, makes directories and
writes whole texts.  The operations run in a monad `m`, so that they can act on
files on a disk as well as on a tree of files held in memory.
-/

namespace DeclGen

/-- Why an operation on a file fails. -/
inductive FileError where
  | notFound
  | alreadyExists
  | notDirectory
  | isDirectory
  | nameTooLong
  | zeroInName
  | notText
  /-- What a file system says for itself. -/
  | other (text : String)
  deriving DecidableEq, Repr

/-- The wording of an error. -/
def FileError.message : FileError → String
  | notFound => "No such file or directory (os error 2)"
  | alreadyExists => "File exists (os error 17)"
  | notDirectory => "Not a directory (os error 20)"
  | isDirectory => "Is a directory (os error 21)"
  | nameTooLong => "File name too long (os error 36)"
  | zeroInName => "file name contained an unexpected NUL byte"
  | notText => "stream did not contain valid UTF-8"
  | other text => text

/-- The operations on files. -/
structure FileSystem (m : Type → Type) where
  /-- The text in a file. -/
  read : Path → ExceptT FileError m String
  /-- Makes a directory, and those on the way to it, where they are missing. -/
  createDirectories : Path → ExceptT FileError m Unit
  /-- Puts a text into a file in place of what was in it. -/
  write : Path → String → ExceptT FileError m Unit

end DeclGen
