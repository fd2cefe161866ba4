import DeclGen.Toml.Moment
import DeclGen.Toml.Number
import DeclGen.Toml.Table
import DeclGen.Toml.Text

/-!
# DeclGen.Toml.Parser

Reading TOML 1.0 text.  Values are read within a limited depth of nesting; the
statements of a document are read one by one and put into its tables.
-/

namespace DeclGen.Toml

open DeclGen.Text

/-! ## what stands between tokens -/

/-- The white space inside a line. -/
def isSpace (c : Char) : Bool := c == ' ' || c == '\t'

/-- The input behind white space inside a line. -/
def skipSpace (s : List Char) : List Char := s.dropWhile isSpace

/-- The input behind white space, line ends and comments; the flag tells whether
the input starts inside a comment. -/
def skipTrivia : (inComment : Bool) → List Char → List Char
  | _, [] => []
  | _, '\n' :: r => skipTrivia false r
  | _, '\r' :: '\n' :: r => skipTrivia false r
  | true, c :: r => if isPrintable c then skipTrivia true r else c :: r
  | false, c :: r =>
    if isSpace c then skipTrivia false r
    else if c = '#' then skipTrivia true r
    else c :: r

/-- The input behind the end of a line, in front of which white space and a
comment may stand. -/
def endLine (s : List Char) : Option (List Char) :=
  let r := match skipSpace s with
    | '#' :: r => r.dropWhile isPrintable
    | r => r
  match r with
  | [] => some []
  | '\n' :: r => some r
  | '\r' :: '\n' :: r => some r
  | _ => none

/-- The input behind a mark. -/
def skipMark (mark : Char) : List Char → Option (List Char)
  | c :: r => if c = mark then some r else none
  | [] => none

/-! ## keys -/

/-- A character of a key without quotes. -/
def isBareKeyChar (c : Char) : Bool := c.isAlphanum || c == '-' || c == '_'

/-- One part of a key. -/
def readKeyPart : Reader String
  | '"' :: r => (readBasic r).map fun (s, r) => (String.ofList s, r)
  | '\x27' :: r => (readLiteral r).map fun (s, r) => (String.ofList s, r)
  | s =>
    let part := s.takeWhile isBareKeyChar
    if part.isEmpty then none else some (String.ofList part, s.dropWhile isBareKeyChar)

/-- The parts of a key, with white space around each of them. -/
def readKeyParts : (fuel : Nat) → Reader (List String)
  | 0, _ => none
  | fuel + 1, s => do
    let (part, r) ← readKeyPart (skipSpace s)
    match skipSpace r with
    | '.' :: r => (readKeyParts fuel r).map fun (parts, r) => (part :: parts, r)
    | r => some ([part], r)

/-- How many parts a key may have, and how many arrays and inline tables may be
nested. -/
def maxNesting : Nat := 79

/-- A key: the parts in front of the last one, and the last one. -/
def readKey : Reader (List String × String) := fun s => do
  let (parts, r) ← readKeyParts (s.length + 1) s
  if maxNesting < parts.length then none
  else some ((parts.dropLast, ← parts.getLast?), r)

/-! ## values -/

/-- The items of an array up to its closing bracket. -/
def readItems (value : Reader Toml) : (fuel : Nat) → Reader (List Toml)
  | 0, _ => none
  | fuel + 1, s => match skipTrivia false s with
    | ']' :: r => some ([], r)
    | r => do
      let (item, r) ← value r
      match skipTrivia false r with
      | ']' :: r => some ([item], r)
      | ',' :: r => (readItems value fuel r).map fun (items, r) => (item :: items, r)
      | _ => none

/-- A key with its value. -/
def readEntry (value : Reader Toml) : Reader ((List String × String) × Toml) := fun s => do
  let (key, r) ← readKey s
  let r ← skipMark '=' r
  let (toml, r) ← value (skipSpace r)
  some ((key, toml), r)

/-- The entries of an inline table up to its closing brace, from the first one
on. -/
def readEntries (value : Reader Toml) : (fuel : Nat) → Node → Reader Node
  | 0, _, _ => none
  | fuel + 1, node, s => do
    let ((key, toml), r) ← readEntry value s
    let node ← node.assignAt key.1 key.2 toml
    match skipSpace r with
    | ',' :: r => readEntries value fuel node r
    | '\x7d' :: r => some (node, r)
    | _ => none

/-- A value, within so many levels of nesting. -/
def readValue : (room : Nat) → Reader Toml
  | room, s => match s with
    | [] => none
    | '[' :: r => match room with
      | 0 => none
      | room + 1 => (readItems (readValue room) (r.length + 1) r).map
        fun (items, r) => (array items, r)
    | '\x7b' :: r => match room with
      | 0 => none
      | room + 1 => match skipSpace r with
        | '\x7d' :: r => some (table [], r)
        | _ => (readEntries (readValue room) (r.length + 1) (Node.emptyTable .opened) r).map
          fun (node, r) => (node.toToml, r)
    | c :: r =>
      if c = '"' || c = '\x27' then (readText (c :: r)).map fun (s, r) => (text s, r)
      else if c = 't' then (skipWord "rue".toList r).map (bool true, ·)
      else if c = 'f' then (skipWord "alse".toList r).map (bool false, ·)
      else if startsMoment (c :: r) then
        (readMoment (c :: r)).map fun (canonical, r) => (moment canonical, r)
      else readNumber (c :: r)

/-! ## documents -/

/-- A document under construction, and the path of the table that entries are
added to. -/
structure Draft where
  root : Node
  current : List String

/-- Opens the table of a header. -/
def Draft.openTable (d : Draft) (key : List String × String) : Option Draft :=
  (d.root.change .passed (Node.openTable key.2) key.1).map (⟨·, key.1 ++ [key.2]⟩)

/-- Opens one more table of an array of tables. -/
def Draft.openItem (d : Draft) (key : List String × String) : Option Draft :=
  (d.root.change .passed (Node.openItem key.2) key.1).map (⟨·, key.1 ++ [key.2]⟩)

/-- Adds an entry to the current table. -/
def Draft.assign (d : Draft) (key : List String × String) (toml : Toml) : Option Draft :=
  (d.root.change .passed (Node.assignAt key.1 key.2 toml) d.current).map (⟨·, d.current⟩)

/-- A header or an entry, with the end of its line. -/
def readStatement (d : Draft) : Reader Draft := fun s =>
  match s with
  | '[' :: '[' :: r => do
    let (key, r) ← readKey r
    let r ← skipMark ']' r
    let r ← skipMark ']' r
    let r ← endLine r
    some (← d.openItem key, r)
  | '[' :: r => do
    let (key, r) ← readKey r
    let r ← skipMark ']' r
    let r ← endLine r
    some (← d.openTable key, r)
  | s => do
    let ((key, toml), r) ← readEntry (readValue maxNesting) s
    let r ← endLine r
    some (← d.assign key toml, r)

/-- The statements of a document. -/
def readStatements : (fuel : Nat) → Draft → List Char → Option Draft
  | 0, _, _ => none
  | fuel + 1, d, s => match skipTrivia false s with
    | [] => some d
    | r => do
      let (d, r) ← readStatement d r
      readStatements fuel d r

/-- The byte order mark, which may stand in front of a document. -/
def byteOrderMark : Char := '\uFEFF'

/-- The table that a document holds. -/
def parse? (document : String) : Option Toml :=
  let s := match document.toList with
    | c :: r => if c = byteOrderMark then r else c :: r
    | [] => []
  (readStatements (s.length + 1) ⟨Node.emptyTable .opened, []⟩ s).map (·.root.toToml)

end DeclGen.Toml
