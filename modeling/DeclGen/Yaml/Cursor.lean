/-!
# DeclGen.Yaml.Cursor

Character classes of YAML documents, and a cursor that goes through a document
and knows its line and column.
-/

namespace DeclGen.Yaml

/-! ## character classes -/

/-- A space or a tab. -/
def isBlank (c : Char) : Bool := c == ' ' || c == '\t'

/-- A line break: a line feed, a carriage return, NEL, LS or PS. -/
def isBreak (c : Char) : Bool :=
  c == '\n' || c == '\r' || c == '\x85' || c == '\u2028' || c == '\u2029'

/-- What ends a word: a blank or a line break. -/
def isSpace (c : Char) : Bool := isBlank c || isBreak c

/-- What names are made of. -/
def isNameChar (c : Char) : Bool := c.isAlphanum || c == '_' || c == '-'

/-- The characters that a document may hold. -/
def isPrintable (c : Char) : Bool :=
  let n := c.toNat
  n == 0x9 || n == 0xA || n == 0xD || (0x20 ≤ n && n ≤ 0x7E) || n == 0x85 ||
    (0xA0 ≤ n && n ≤ 0xFFFD) || 0x10000 ≤ n

/-- The text that a line break stands for: LS and PS stand for themselves, all
others for a line feed. -/
def breakText (c : Char) : List Char :=
  if c == '\u2028' || c == '\u2029' then [c] else ['\n']

/-! ## the cursor -/

/-- A place in a document. -/
structure Cursor where
  rest : List Char
  index : Nat
  line : Nat
  column : Nat

namespace Cursor

/-- The start of a document. -/
def start (document : List Char) : Cursor := ⟨document, 0, 0, 0⟩

/-- The next character. -/
def peek? (c : Cursor) : Option Char := c.rest.head?

/-- Whether the next character is of a kind. -/
def sees (c : Cursor) (p : Char → Bool) : Bool := c.rest.head?.any p

/-- Whether a word ends in front of the character behind so many others. -/
def endsBehind (c : Cursor) (n : Nat) : Bool := (c.rest.drop n).head?.all isSpace

/-- The cursor behind so many characters of the same line. -/
def advance (c : Cursor) (n : Nat) : Cursor :=
  { c with rest := c.rest.drop n, index := c.index + n, column := c.column + n }

/-- The cursor behind a line break, which may have two characters. -/
def nextLine (c : Cursor) : Cursor :=
  let width := match c.rest with
    | '\r' :: '\n' :: _ => 2
    | _ => 1
  ⟨c.rest.drop width, c.index + width, c.line + 1, 0⟩

/-- The cursor behind all characters of a kind in front, none of which is a line
break. -/
def skipWhile (c : Cursor) (p : Char → Bool) : Cursor :=
  c.advance (c.rest.takeWhile p).length

/-- The cursor behind a comment, if one is in front. -/
def skipComment (c : Cursor) : Cursor :=
  if c.sees (· == '#') then c.skipWhile (!isBreak ·) else c

/-- Whether the line starts with a mark between documents. -/
def seesDocumentMark (c : Cursor) : Bool :=
  c.column == 0 && (['-', '-', '-'].isPrefixOf c.rest || ['.', '.', '.'].isPrefixOf c.rest) &&
    c.endsBehind 3

/-- The cursor behind the blanks and the comment at the end of a line, and behind
the line break. -/
def endOfLine? (c : Cursor) : Option Cursor :=
  let c := (c.skipWhile isBlank).skipComment
  match c.rest with
  | [] => some c
  | x :: _ => if isBreak x then some c.nextLine else none

end Cursor

end DeclGen.Yaml
