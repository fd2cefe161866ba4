/-!
# DeclGen.Path

Paths of files: parts with slashes between them.  A path keeps the text it was
written with; its parts are read off that text.

* Slashes that follow each other count as one, and so does a slash with a part
  `.` behind it; a trailing slash counts for nothing.
* A leading slash, which is the root, and a leading `.` are parts of their own.
-/

namespace DeclGen

/-- A path, as it is written. -/
structure Path where
  text : String
  deriving DecidableEq, Repr

namespace Path

/-- A path, written backwards, without what counts for nothing at its end. -/
def dropTail : List Char → List Char
  | [] => []
  | c :: rest =>
    if c = '/' ∧ rest ≠ [] ∨ c = '.' ∧ rest.head? = some '/' then dropTail rest else c :: rest

/-- The path written backwards, from its last part on. -/
def backwards (p : Path) : List Char := dropTail p.text.toList.reverse

/-- The path to what holds the last part.  It is empty for a single part; the
root and the empty path have none. -/
def parent? (p : Path) : Option Path :=
  match p.backwards with
  | [] | ['/'] => none
  | s => some ⟨String.ofList (dropTail (s.dropWhile (· ≠ '/'))).reverse⟩

/-- What follows the last dot in the last part.  There is none if nothing stands
before that dot, or if the part is `..`. -/
def extension? (p : Path) : Option String :=
  let name := p.backwards.takeWhile (· ≠ '/')
  if name = ['.', '.'] then none
  else match name.span (· ≠ '.') with
    | (extension, _ :: _ :: _) => some (String.ofList extension.reverse)
    | _ => none

/-- Whether the path has an extension, in small or large letters. -/
def hasExtension (p : Path) (extension : String) : Bool :=
  p.extension?.any fun found => found.toList.map Char.toLower = extension.toList

end Path

end DeclGen
