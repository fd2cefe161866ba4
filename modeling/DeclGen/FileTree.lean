import DeclGen.FileSystem

/-!
# DeclGen.FileTree

Files and directories held in memory, and the operations on them.

1. A path that begins with a slash starts at the top of the tree, and any other
   one at the working directory.  The empty path leads nowhere.
2. A path is followed part by part.  An empty part and `.` stay where they are,
   `..` goes back and stays at the top; whatever follows a file fails.
3. A name has at most 255 bytes.
-/

namespace DeclGen

/-- A place in a tree: the names on the way to it, the last one first. -/
abbrev Place := List String

/-- What is at a place. -/
inductive Entry where
  | directory
  | file (bytes : ByteArray)

/-- Files and directories, each with its place, and the place that a program
works at.  The first entry for a place counts, and the top is a directory. -/
structure FileTree where
  entries : List (Place × Entry)
  workingDirectory : Place := []

namespace FileTree

/-- The tree with nothing in it but a working directory. -/
def empty : FileTree where
  entries := [(["work"], .directory)]
  workingDirectory := ["work"]

instance : Inhabited FileTree := ⟨empty⟩

/-- What is at a place. -/
def lookup? (t : FileTree) (place : Place) : Option Entry :=
  if place.isEmpty then some .directory else t.entries.lookup place

/-- The tree with an entry at a place. -/
def insert (t : FileTree) (place : Place) (entry : Entry) : FileTree :=
  { t with entries := (place, entry) :: t.entries }

/-! ## following paths -/

/-- Where a path starts, and its parts. -/
structure Route where
  start : Place
  parts : List String

/-- The route of a path. -/
def route (t : FileTree) (path : Path) : Except FileError Route :=
  match path.text.toList with
  | [] => .error .notFound
  | c :: rest =>
    if '\x00' ∈ c :: rest then .error .zeroInName
    else .ok
      { start := if c = '/' then [] else t.workingDirectory
        parts := ((c :: rest).splitOn '/').map String.ofList }

/-- The place that a part leads to from a directory. -/
def enter (place : Place) (part : String) : Except FileError Place :=
  if part = "" ∨ part = "." then .ok place
  else if part = ".." then .ok place.tail
  else if 255 < part.utf8ByteSize then .error .nameTooLong
  else .ok (part :: place)

/-- Checks that a place is a directory. -/
def expectDirectory (t : FileTree) (place : Place) : Except FileError Unit :=
  match t.lookup? place with
  | none => .error .notFound
  | some (.file _) => .error .notDirectory
  | some .directory => .ok ()

/-- The place that a part leads to from a place, which has to be a directory. -/
def follow (t : FileTree) (place : Place) (part : String) : Except FileError Place := do
  t.expectDirectory place
  enter place part

/-- The place that a path leads to, which may have no entry yet; it lies in a
directory. -/
def locate (t : FileTree) (path : Path) : Except FileError Place := do
  let route ← t.route path
  route.parts.foldlM t.follow route.start

/-! ## operations -/

/-- The bytes of a file. -/
def readBytes (t : FileTree) (path : Path) : Except FileError ByteArray := do
  match t.lookup? (← t.locate path) with
  | none => .error .notFound
  | some .directory => .error .isDirectory
  | some (.file bytes) => .ok bytes

/-- The text of a file. -/
def readText (t : FileTree) (path : Path) : Except FileError String := do
  match String.fromUTF8? (← t.readBytes path) with
  | none => .error .notText
  | some text => .ok text

/-- The tree with a file in place of what the file held, if it was there.  A path
with a slash at its end is none of a file. -/
def writeBytes (t : FileTree) (path : Path) (bytes : ByteArray) : Except FileError FileTree :=
  if path.text.toList.getLast? = some '/' then .error .isDirectory
  else do
    let place ← t.locate path
    match t.lookup? place with
    | some .directory => .error .isDirectory
    | _ => .ok (t.insert place (.file bytes))

/-- Makes a directory at a place that lies in a directory, unless it is there. -/
def createDirectory (place : Place) : ExceptT FileError (StateM FileTree) Unit := do
  match (← get).lookup? place with
  | some .directory => pure ()
  | some (.file _) => throw .alreadyExists
  | none => modify fun t => t.insert place .directory

/-- Makes the directory that a part leads to. -/
def createNext (place : Place) (part : String) : ExceptT FileError (StateM FileTree) Place := do
  let next ← (← get).follow place part
  createDirectory next
  pure next

/-- Makes the directories on a route one after the other.  Those made before a
failure stay. -/
def createAlong (route : Route) : ExceptT FileError (StateM FileTree) Unit := do
  let _ ← route.parts.foldlM createNext route.start

/-- Makes the directory that a path leads to, and those on the way to it if what
it lies in is missing. -/
def createDirectories (path : Path) : ExceptT FileError (StateM FileTree) Unit := do
  let t ← get
  match t.locate path with
  | .ok place => createDirectory place
  | .error .notFound => do createAlong (← t.route path)
  | .error error => throw error

/-- The operations on a tree of files. -/
def fileSystem : FileSystem (StateM FileTree) where
  read path := do (← get).readText path
  createDirectories := createDirectories
  write path text := do set (← (← get).writeBytes path text.toUTF8)

end FileTree

end DeclGen
