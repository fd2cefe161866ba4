import DeclGen.Text.Reader

/-!
# DeclGen.Toml.Text

The four spellings of a TOML text: basic and literal, on one line or on several.
A reader stands behind the opening quotes.
-/

namespace DeclGen.Toml

open DeclGen.Text

/-! ## characters -/

/-- A character that may stand in a comment or a text: no control character but
the tab. -/
def isPrintable (c : Char) : Bool :=
  c == '\t' || (0x20 ≤ c.toNat && c.toNat != 0x7F)

/-- The character that a one-letter escape stands for. -/
def escape? : Char → Option Char
  | 'b' => some '\x08'
  | 't' => some '\t'
  | 'n' => some '\n'
  | 'f' => some '\x0c'
  | 'r' => some '\r'
  | '"' => some '"'
  | '\\' => some '\\'
  | _ => none

/-- The character with a code point written in hexadecimal digits. -/
def scalarOf? (digits : List Char) : Option Char := (hexValue? 16 digits).bind scalar?

/-! ## texts on one line -/

/-- A basic text up to its closing quote. -/
def readBasic : Reader (List Char)
  | [] => none
  | '"' :: r => some ([], r)
  | '\\' :: 'u' :: a :: b :: c :: d :: r => do
    let x ← scalarOf? [a, b, c, d]
    let (s, r) ← readBasic r
    some (x :: s, r)
  | '\\' :: 'U' :: a :: b :: c :: d :: e :: f :: g :: h :: r => do
    let x ← scalarOf? [a, b, c, d, e, f, g, h]
    let (s, r) ← readBasic r
    some (x :: s, r)
  | '\\' :: e :: r => do
    let x ← escape? e
    let (s, r) ← readBasic r
    some (x :: s, r)
  | c :: r =>
    if c != '\\' && isPrintable c then (readBasic r).map fun (s, r) => (c :: s, r) else none

/-- A literal text up to its closing quote. -/
def readLiteral : Reader (List Char)
  | [] => none
  | '\x27' :: r => some ([], r)
  | c :: r => if isPrintable c then (readLiteral r).map fun (s, r) => (c :: s, r) else none

/-! ## texts on several lines -/

/-- Where the reader of a basic text on several lines stands: in its content, or
behind a backslash at the end of a line, before or behind the first line end
that is dropped with it. -/
inductive LinePlace where
  | content
  | beforeLineEnd
  | behindLineEnd
  deriving DecidableEq

/-- A basic text on several lines up to its closing quotes.  One or two quotes
may stand in it, also directly before the closing ones. -/
def readBasicLines : LinePlace → Reader (List Char)
  | .beforeLineEnd, ' ' :: r => readBasicLines .beforeLineEnd r
  | .beforeLineEnd, '\t' :: r => readBasicLines .beforeLineEnd r
  | .beforeLineEnd, '\n' :: r => readBasicLines .behindLineEnd r
  | .beforeLineEnd, '\r' :: '\n' :: r => readBasicLines .behindLineEnd r
  | .beforeLineEnd, _ => none
  | .behindLineEnd, ' ' :: r => readBasicLines .behindLineEnd r
  | .behindLineEnd, '\t' :: r => readBasicLines .behindLineEnd r
  | .behindLineEnd, '\n' :: r => readBasicLines .behindLineEnd r
  | .behindLineEnd, '\r' :: '\n' :: r => readBasicLines .behindLineEnd r
  | _, [] => none
  | _, '"' :: '"' :: '"' :: '"' :: '"' :: r => some (['"', '"'], r)
  | _, '"' :: '"' :: '"' :: '"' :: r => some (['"'], r)
  | _, '"' :: '"' :: '"' :: r => some ([], r)
  | _, '\\' :: 'u' :: a :: b :: c :: d :: r => do
    let x ← scalarOf? [a, b, c, d]
    let (s, r) ← readBasicLines .content r
    some (x :: s, r)
  | _, '\\' :: 'U' :: a :: b :: c :: d :: e :: f :: g :: h :: r => do
    let x ← scalarOf? [a, b, c, d, e, f, g, h]
    let (s, r) ← readBasicLines .content r
    some (x :: s, r)
  | _, '\\' :: ' ' :: r => readBasicLines .beforeLineEnd r
  | _, '\\' :: '\t' :: r => readBasicLines .beforeLineEnd r
  | _, '\\' :: '\n' :: r => readBasicLines .behindLineEnd r
  | _, '\\' :: '\r' :: '\n' :: r => readBasicLines .behindLineEnd r
  | _, '\\' :: e :: r => do
    let x ← escape? e
    let (s, r) ← readBasicLines .content r
    some (x :: s, r)
  | _, '\n' :: r => (readBasicLines .content r).map fun (s, r) => ('\n' :: s, r)
  | _, '\r' :: '\n' :: r => (readBasicLines .content r).map fun (s, r) => ('\n' :: s, r)
  | _, c :: r =>
    if c != '\\' && isPrintable c then
      (readBasicLines .content r).map fun (s, r) => (c :: s, r)
    else none

/-- A literal text on several lines up to its closing quotes. -/
def readLiteralLines : Reader (List Char)
  | [] => none
  | '\x27' :: '\x27' :: '\x27' :: '\x27' :: '\x27' :: r => some (['\x27', '\x27'], r)
  | '\x27' :: '\x27' :: '\x27' :: '\x27' :: r => some (['\x27'], r)
  | '\x27' :: '\x27' :: '\x27' :: r => some ([], r)
  | '\n' :: r => (readLiteralLines r).map fun (s, r) => ('\n' :: s, r)
  | '\r' :: '\n' :: r => (readLiteralLines r).map fun (s, r) => ('\n' :: s, r)
  | c :: r =>
    if isPrintable c then (readLiteralLines r).map fun (s, r) => (c :: s, r) else none

/-- The input behind a line end, if one comes next. -/
def skipLineEnd : List Char → List Char
  | '\n' :: r => r
  | '\r' :: '\n' :: r => r
  | r => r

/-- A text in any of the four spellings, its opening quotes included.  A line
end directly behind three opening quotes is dropped. -/
def readText : Reader String := fun s =>
  (match s with
    | '"' :: '"' :: '"' :: r => readBasicLines .content (skipLineEnd r)
    | '"' :: r => readBasic r
    | '\x27' :: '\x27' :: '\x27' :: r => readLiteralLines (skipLineEnd r)
    | '\x27' :: r => readLiteral r
    | _ => none).map fun (content, r) => (String.ofList content, r)

end DeclGen.Toml
