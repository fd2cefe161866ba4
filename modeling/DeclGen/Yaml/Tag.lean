import DeclGen.Text.Reader
import DeclGen.Yaml.Cursor
import DeclGen.Yaml.Token

/-!
# DeclGen.Yaml.Tag

Reading anchors, aliases, tags and directives.
-/

namespace DeclGen.Yaml

open Text

/-! ## anchors and aliases -/

/-- A name behind the sign of an anchor or an alias. -/
def readName (c : Cursor) : Option (List Char × Cursor) :=
  let name := c.rest.takeWhile isNameChar
  let c := c.advance name.length
  if !name.isEmpty && (c.endsBehind 0 || c.sees ("?:,]\x7d%@`".toList.contains ·)) then
    some (name, c)
  else none

/-! ## tags -/

/-- The characters of a tag's address; flow indicators are among them only in a
verbatim tag. -/
def isUriChar (verbatim : Bool) (c : Char) : Bool :=
  isNameChar c || ";/?:@&=+$.%!~*'()".toList.contains c ||
    verbatim && (c == ',' || c == '[' || c == ']')

/-- The byte that `%` and two hexadecimal digits stand for. -/
def readByte : Reader Nat
  | '%' :: r => readHex 2 r
  | _ => none

/-- How many bytes follow the leading byte of a character. -/
def followers? (lead : Nat) : Option Nat :=
  if lead < 0x80 then some 0
  else if 0xC0 ≤ lead && lead < 0xE0 then some 1
  else if 0xE0 ≤ lead && lead < 0xF0 then some 2
  else if 0xF0 ≤ lead && lead < 0xF8 then some 3
  else none

/-- So many bytes that continue a character, joined to the bits in front. -/
def readFollowers : (count : Nat) → (bits : Nat) → Reader Nat
  | 0, bits, s => some (bits, s)
  | count + 1, bits, s => do
    let (byte, r) ← readByte s
    if 0x80 ≤ byte && byte < 0xC0 then readFollowers count (bits * 64 + byte % 64) r else none

/-- A character whose bytes are written with `%`, and the number of characters that
are read. -/
def readPercent (s : List Char) : Option (Char × Nat) := do
  let (lead, r) ← readByte s
  let count ← followers? lead
  let bits := if count = 0 then lead else lead % Nat.pow 2 (6 - count)
  let (n, _) ← readFollowers count bits r
  some (Char.ofNat n, 3 * (count + 1))

/-- A tag's address from some place on, which may be empty. -/
def readUri (verbatim : Bool) : (fuel : Nat) → Cursor → Option (List Char × Cursor)
  | 0, _ => none
  | fuel + 1, c => match c.rest with
    | [] => some ([], c)
    | x :: _ =>
      if x == '%' then do
        let (y, width) ← readPercent c.rest
        let (uri, c) ← readUri verbatim fuel (c.advance width)
        some (y :: uri, c)
      else if isUriChar verbatim x then do
        let (uri, c) ← readUri verbatim fuel (c.advance 1)
        some (x :: uri, c)
      else some ([], c)

/-- A tag's handle: a name between two marks, of which the second and the name may
be missing. -/
def readHandle (c : Cursor) : Option (List Char × Cursor) :=
  match c.rest with
  | '!' :: r =>
    let name := r.takeWhile isNameChar
    let c := c.advance (name.length + 1)
    if c.sees (· == '!') then some ('!' :: name ++ ['!'], c.advance 1) else some ('!' :: name, c)
  | _ => none

/-- A tag.  What starts with one mark only has the handle `!`, and a mark that
stands alone is a tag without a handle.  In flow collections a comma may follow. -/
def readTag (flow : Bool) (c : Cursor) : Option (Token × Cursor) := do
  let (token, c) ← match c.rest with
    | '!' :: '<' :: r => do
      let (uri, c) ← readUri true (r.length + 1) (c.advance 2)
      if !uri.isEmpty && c.sees (· == '>') then some (.tag [] uri, c.advance 1) else none
    | _ => do
      let (handle, c) ← readHandle c
      let (uri, c) ← readUri false (c.rest.length + 1) c
      if 1 < handle.length && handle.getLast? = some '!' then
        if uri.isEmpty then none else some (.tag handle uri, c)
      else
        let suffix := handle.drop 1 ++ uri
        some (if suffix.isEmpty then .tag [] ['!'] else .tag ['!'] suffix, c)
  if c.endsBehind 0 || flow && c.sees (· == ',') then some (token, c) else none

/-! ## directives -/

/-- A number of a version. -/
def readVersionNumber (c : Cursor) : Option (Nat × Cursor) :=
  let digits := c.rest.takeWhile Char.isDigit
  if 0 < digits.length && digits.length ≤ 9 then
    some (Nat.ofDigitChars 10 digits 0, c.advance digits.length)
  else none

/-- The version of a document. -/
def readVersion (c : Cursor) : Option (Token × Cursor) := do
  let (major, c) ← readVersionNumber (c.skipWhile isBlank)
  if c.sees (· == '.') then
    let (minor, c) ← readVersionNumber (c.advance 1)
    some (.version major minor, c)
  else none

/-- A handle with the text that it stands for. -/
def readTagDirective (c : Cursor) : Option (Token × Cursor) := do
  let (handle, c) ← readHandle (c.skipWhile isBlank)
  if (handle = ['!'] || 1 < handle.length && handle.getLast? = some '!') && c.sees isBlank then
    let c := c.skipWhile isBlank
    let (pre, c) ← readUri true (c.rest.length + 1) c
    if !pre.isEmpty && c.endsBehind 0 then some (.tagDirective handle pre, c) else none
  else none

/-- A directive with its line. -/
def readDirective (c : Cursor) : Option (Token × Cursor) := do
  let name := (c.rest.drop 1).takeWhile isNameChar
  let c := c.advance (name.length + 1)
  if c.endsBehind 0 then
    let (token, c) ←
      if name = "YAML".toList then readVersion c
      else if name = "TAG".toList then readTagDirective c
      else none
    some (token, ← c.endOfLine?)
  else none

end DeclGen.Yaml
