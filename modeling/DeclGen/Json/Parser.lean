import DeclGen.Json.Basic
import DeclGen.Text.Reader

/-!
# DeclGen.Json.Parser

Reading JSON text: one value with white space around it.  Arrays and objects
may be nested up to a given depth, on which the recursion runs.
-/

namespace DeclGen.Json

open Text

/-- The white space of JSON. -/
def isSpace (c : Char) : Bool := c == ' ' || c == '\n' || c == '\t' || c == '\r'

/-- The input behind its leading white space. -/
def skipSpace (s : List Char) : List Char := s.dropWhile isSpace

/-! ## numbers -/

/-- Digits, at least one of them. -/
def readDigits : Reader (List Char) := fun s =>
  let digits := s.takeWhile Char.isDigit
  if digits.isEmpty then none else some (digits, s.dropWhile Char.isDigit)

/-- The part of a number in front of its fraction: no zero may lead other
digits. -/
def readWhole : Reader (List Char)
  | '0' :: r => match r with
    | c :: _ => if c.isDigit then none else some (['0'], r)
    | [] => some (['0'], [])
  | s => readDigits s

/-- The fraction of a number, which may be missing. -/
def readFraction : Reader (List Char)
  | '.' :: r => (readDigits r).map fun (digits, r) => ('.' :: digits, r)
  | s => some ([], s)

/-- The exponent of a number, which may be missing. -/
def readExponent : Reader (List Char)
  | c :: r =>
    if c = 'e' || c = 'E' then
      let (sign, r) := match r with
        | '+' :: r => (['+'], r)
        | '-' :: r => (['-'], r)
        | r => ([], r)
      (readDigits r).map fun (digits, r) => (c :: sign ++ digits, r)
    else some ([], c :: r)
  | [] => some ([], [])

/-- A number as it is written. -/
def readNumber : Reader String := fun s => do
  let (sign, r) := match s with
    | '-' :: r => (['-'], r)
    | r => ([], r)
  let (whole, r) ← readWhole r
  let (fraction, r) ← readFraction r
  let (exponent, r) ← readExponent r
  some (String.ofList (sign ++ whole ++ fraction ++ exponent), r)

/-! ## texts -/

/-- The character that a one-letter escape stands for. -/
def escape? : Char → Option Char
  | '"' => some '"'
  | '\\' => some '\\'
  | '/' => some '/'
  | 'b' => some '\x08'
  | 'f' => some '\x0c'
  | 'n' => some '\n'
  | 'r' => some '\r'
  | 't' => some '\t'
  | _ => none

/-- The body of a text up to its closing quote, as characters and 16-bit units
written as escapes. -/
def readUnits : Reader (List (Char ⊕ Nat))
  | [] => none
  | '"' :: r => some ([], r)
  | '\\' :: 'u' :: a :: b :: c :: d :: r => do
    let unit ← hexValue? 16 [a, b, c, d]
    let (units, r) ← readUnits r
    some (.inr unit :: units, r)
  | '\\' :: e :: r => do
    let c ← escape? e
    let (units, r) ← readUnits r
    some (.inl c :: units, r)
  | c :: r =>
    if c = '\\' || c.toNat < 0x20 then none
    else (readUnits r).map fun (units, r) => (.inl c :: units, r)

/-- Joins the two halves of each surrogate pair; a half that stands alone leaves
no text. -/
def joinUnits : List (Char ⊕ Nat) → Option (List Char)
  | [] => some []
  | .inl c :: r => (joinUnits r).map (c :: ·)
  | .inr high :: .inr low :: r =>
    if 0xD800 ≤ high && high < 0xDC00 then
      if 0xDC00 ≤ low && low < 0xE000 then
        (joinUnits r).map (Char.ofNat (0x10000 + (high - 0xD800) * 0x400 + (low - 0xDC00)) :: ·)
      else none
    else if 0xDC00 ≤ high && high < 0xE000 then none
    else (joinUnits (.inr low :: r)).map (Char.ofNat high :: ·)
  | .inr unit :: r =>
    if 0xD800 ≤ unit && unit < 0xE000 then none
    else (joinUnits r).map (Char.ofNat unit :: ·)

/-- A text, behind its opening quote. -/
def readString : Reader (Option String) := fun s =>
  (readUnits s).map fun (units, r) => ((joinUnits units).map String.ofList, r)

/-! ## arrays and objects -/

/-- The items of an array up to its closing bracket, from the first one on. -/
def readItems (value : Reader Json) : (fuel : Nat) → Reader (List Json)
  | 0, _ => none
  | fuel + 1, s => do
    let (item, r) ← value s
    match skipSpace r with
    | ',' :: r => do
      let (items, r) ← readItems value fuel r
      some (item :: items, r)
    | ']' :: r => some ([item], r)
    | _ => none

/-- The fields of an object up to its closing brace, from the first one on. -/
def readFields (value : Reader Json) : (fuel : Nat) → Reader (List (Option String × Json))
  | 0, _ => none
  | fuel + 1, s => match skipSpace s with
    | '"' :: r => do
      let (key, r) ← readString r
      match skipSpace r with
      | ':' :: r => do
        let (item, r) ← value r
        match skipSpace r with
        | ',' :: r => do
          let (fields, r) ← readFields value fuel r
          some ((key, item) :: fields, r)
        | '\x7d' :: r => some ([(key, item)], r)
        | _ => none
      | _ => none
    | _ => none

/-! ## values -/

/-- A value with white space in front of it, within so many levels of nesting. -/
def readValue : (room : Nat) → Reader Json
  | room, s => match skipSpace s with
    | [] => none
    | '"' :: r => (readString r).map fun (s, r) => (text s, r)
    | '[' :: r => match room with
      | 0 => none
      | room + 1 => match skipSpace r with
        | ']' :: r => some (array [], r)
        | r => (readItems (readValue room) (r.length + 1) r).map fun (items, r) => (array items, r)
    | '\x7b' :: r => match room with
      | 0 => none
      | room + 1 => match skipSpace r with
        | '\x7d' :: r => some (object [], r)
        | r => (readFields (readValue room) (r.length + 1) r).map fun (fields, r) =>
          (object fields, r)
    | c :: r =>
      if c = '-' || c.isDigit then
        (readNumber (c :: r)).map fun (literal, r) => (number literal, r)
      else if c = 't' then (skipWord "rue".toList r).map (bool true, ·)
      else if c = 'f' then (skipWord "alse".toList r).map (bool false, ·)
      else if c = 'n' then (skipWord "ull".toList r).map (null, ·)
      else none

/-- How deep arrays and objects may be nested in a document. -/
def maxNesting : Nat := 127

/-- The value that a document holds. -/
def parse? (document : String) : Option Json :=
  match readValue maxNesting document.toList with
  | some (value, r) => if (skipSpace r).isEmpty then some value else none
  | none => none

end DeclGen.Json
