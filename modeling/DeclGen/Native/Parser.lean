import DeclGen.Native.Basic
import DeclGen.Text.Blank
import DeclGen.Text.Letter

/-!
# DeclGen.Native.Parser

Reading a native type from text.

* A type is a reference (`&T`, with an optional lifetime and `mut`), a tuple, a
  sequence `[T]` or array `[T; 16]`, or a path with optional arguments.
* Blanks may stand between any two tokens.
* A step takes the input from some place on and gives a value with the input
  from behind it on, or a fault with the input from the offending place on.
* Types are nested at most `maxNesting` deep; that number is what the recursion
  runs on.  The loops over items run on the length of the input.
-/

namespace DeclGen.Native

open Text

/-! ## errors -/

/-- What is wrong with the text of a type. -/
inductive Fault.Cause where
  | nestingTooDeep
  | unexpectedCharacter (c : Char)
  | unexpectedEnd
  | expected (token : List Char)
  | expectedItemEnd
  | expectedLength
  | expectedIdentifier
  | expectedLifetime
  | trailingInput
  deriving DecidableEq, Repr

/-- The wording of a cause. -/
def Fault.Cause.message : Fault.Cause → String
  | nestingTooDeep => "type nesting too deep"
  | unexpectedCharacter c => "unexpected character `" ++ c.toString ++ "`"
  | unexpectedEnd => "unexpected end of input"
  | expected token => "expected `" ++ String.ofList token ++ "`"
  | expectedItemEnd => "expected `,` or `)` in tuple"
  | expectedLength => "expected array length"
  | expectedIdentifier => "expected identifier"
  | expectedLifetime => "expected lifetime name"
  | trailingInput => "unexpected trailing input"

/-- A cause, and the input from the offending place on. -/
structure Fault where
  cause : Fault.Cause
  rest : List Char
  deriving DecidableEq, Repr

/-- Why a text is not a type: the cause and the place, counted in UTF-8 bytes. -/
structure ParseError where
  position : Nat
  cause : Fault.Cause
  deriving DecidableEq, Repr

/-- The wording of an error, with its place. -/
def ParseError.message (e : ParseError) : String :=
  "invalid type at offset " ++ toString e.position ++ ": " ++ e.cause.message

/-- The length of a text in UTF-8 bytes. -/
def utf8Length : List Char → Nat
  | [] => 0
  | c :: r => c.utf8Size + utf8Length r

/-- A fault in a source text, with its place counted from the start. -/
def Fault.within (fault : Fault) (source : List Char) : ParseError :=
  ⟨utf8Length source - utf8Length fault.rest, fault.cause⟩

/-- A reader of an `α` from the front of the input. -/
abbrev Reader (α : Type) := List Char → Except Fault (α × List Char)

/-! ## tokens -/

/-- The input behind a token, if the token comes next. -/
def token? (token s : List Char) : Option (List Char) :=
  if token.isPrefixOf (skipBlanks s) then some ((skipBlanks s).drop token.length) else none

/-- The input behind a token that has to come next. -/
def expect (token s : List Char) : Except Fault (List Char) :=
  match token? token s with
  | some r => .ok r
  | none => .error ⟨.expected token, skipBlanks s⟩

/-- The characters of an identifier. -/
def isIdentifierChar (c : Char) : Bool := isAlphanumeric c || c == '_'

/-- The identifier that comes next and the input behind it.  An identifier is a
run of identifier characters as long as possible; it does not start with an
ASCII digit. -/
def identifier? (s : List Char) : Option (List Char × List Char) :=
  match skipBlanks s with
  | [] => none
  | c :: r =>
    if isIdentifierChar c && !c.isDigit then
      some (c :: r.takeWhile isIdentifierChar, r.dropWhile isIdentifierChar)
    else none

/-- Whether a path can start with a character. -/
def startsPath (c : Char) : Bool := isAlphabetic c || c == '_' || c == ':'

/-! ## references -/

/-- The input behind the lifetime of a reference, if there is one.  A tick
without a name is passed over. -/
def skipLifetime (s : List Char) : List Char :=
  match skipBlanks s with
  | '\x27' :: r => match identifier? r with
    | some (_, rest) => rest
    | none => skipBlanks r
  | r => r

/-- The input behind the keyword `mut`, if it comes next. -/
def skipMut (s : List Char) : List Char :=
  match identifier? s with
  | some (name, rest) => if name = "mut".toList then rest else s
  | none => s

/-! ## tuples -/

/-- The items of a tuple up to its closing parenthesis, and whether a comma
stands before that. -/
def tupleItems (item : Reader Native) : (fuel : Nat) → Reader (List Native × Bool)
  | 0, s => .error ⟨.unexpectedEnd, s⟩
  | fuel + 1, s =>
    match token? [')'] s with
    | some r => .ok (([], false), r)
    | none => do
      let (t, r) ← item (skipBlanks s)
      match token? [','] r with
      | some r => do
        let ((ts, comma), r) ← tupleItems item fuel r
        .ok ((t :: ts, ts.isEmpty || comma), r)
      | none => match token? [')'] r with
        | some r => .ok (([t], false), r)
        | none => .error ⟨.expectedItemEnd, skipBlanks r⟩

/-- The meaning of a pair of parentheses: nothing between them is unit, and a
single item without a comma behind it is only parenthesised. -/
def ofItems : List Native × Bool → Native
  | ([], _) => primitive .unit
  | ([t], false) => t
  | (ts, _) => tuple ts

/-- A tuple, behind its opening parenthesis. -/
def readTuple (item : Reader Native) : Reader Native := fun s => do
  let (items, r) ← tupleItems item (s.length + 1) s
  .ok (ofItems items, r)

/-! ## sequences and arrays -/

/-- The length of an array: decimal digits with a value below 2^64. -/
def readLength : Reader UInt64 := fun s =>
  let s := skipBlanks s
  let digits := s.takeWhile Char.isDigit
  let value := Nat.ofDigitChars 10 digits 0
  if digits.isEmpty || UInt64.size ≤ value then .error ⟨.expectedLength, s⟩
  else .ok (UInt64.ofNat value, s.dropWhile Char.isDigit)

/-- A sequence or array, behind its opening bracket. -/
def readBracketed (item : Reader Native) : Reader Native := fun s => do
  let (element, r) ← item s
  match token? [']'] r with
  | some r => .ok (sequence element, r)
  | none => do
    let r ← expect [';'] r
    let (length, r) ← readLength r
    let r ← expect [']'] r
    .ok (array element length, r)

/-! ## paths -/

/-- The segments of a path. -/
def pathSegments : (fuel : Nat) → Reader (List (List Char))
  | 0, s => .error ⟨.unexpectedEnd, s⟩
  | fuel + 1, s =>
    match identifier? s with
    | none => .error ⟨.expectedIdentifier, skipBlanks s⟩
    | some (name, r) => match token? [':', ':'] r with
      | none => .ok ([name], r)
      | some r => do
        let (names, r) ← pathSegments fuel r
        .ok (name :: names, r)

/-- One argument of a path: a type, or a lifetime, which leaves nothing. -/
def readArgument (item : Reader Native) : Reader (List Native) := fun s =>
  match skipBlanks s with
  | '\x27' :: r => match identifier? r with
    | some (_, r) => .ok ([], r)
    | none => .error ⟨.expectedLifetime, skipBlanks r⟩
  | r => do
    let (t, r) ← item r
    .ok ([t], r)

/-- The arguments of a path up to their closing bracket.  There is at least
one, and a comma may stand behind the last. -/
def pathArguments (item : Reader Native) : (fuel : Nat) → Reader (List Native)
  | 0, s => .error ⟨.unexpectedEnd, s⟩
  | fuel + 1, s => do
    let (given, r) ← readArgument item s
    match token? ['>'] r with
    | some r => .ok (given, r)
    | none => do
      let r ← expect [','] r
      match token? ['>'] r with
      | some r => .ok (given, r)
      | none => do
        let (more, r) ← pathArguments item fuel r
        .ok (given ++ more, r)

/-- A path with its arguments.  A leading `::` is not kept. -/
def readPath (item : Reader Native) : Reader Native := fun s => do
  let s := (token? [':', ':'] s).getD s
  let (names, r) ← pathSegments (s.length + 1) s
  let path := String.ofList (List.intercalate [':', ':'] names)
  match token? ['<'] r with
  | none => .ok (ofPath path [], r)
  | some r => do
    let (arguments, r) ← pathArguments item (r.length + 1) r
    .ok (ofPath path arguments, r)

/-! ## types -/

/-- A type, within so many levels of nesting. -/
def readType : (room : Nat) → Reader Native
  | 0, s => .error ⟨.nestingTooDeep, s⟩
  | room + 1, s =>
    match skipBlanks s with
    | [] => .error ⟨.unexpectedEnd, []⟩
    | '&' :: r => readType room (skipMut (skipLifetime r))
    | '(' :: r => readTuple (readType room) r
    | '[' :: r => readBracketed (readType room) r
    | c :: r =>
      if startsPath c then readPath (readType room) (c :: r)
      else .error ⟨.unexpectedCharacter c, c :: r⟩

/-- How deep types may be nested. -/
def maxNesting : Nat := 64

/-- The type that a text spells; the whole text has to be one. -/
def parseChars (source : List Char) : Except Fault Native := do
  let (t, r) ← readType maxNesting source
  match skipBlanks r with
  | [] => .ok t
  | r => .error ⟨.trailingInput, r⟩

/-- The type that a text spells. -/
def parse (source : String) : Except ParseError Native :=
  match parseChars source.toList with
  | .ok t => .ok t
  | .error fault => .error (fault.within source.toList)

end DeclGen.Native
