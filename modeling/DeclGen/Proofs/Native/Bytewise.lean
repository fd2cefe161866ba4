import DeclGen.Proofs.Native.Position

/-!
# DeclGen.Proofs.Native.Bytewise

Reading a native type by a cursor: the parser keeps a position in the text,
counted in bytes, and the number of calls of `parseType` that are under way.

* The text is only seen through slices.  A slice at a position inside a
  character or beyond the end is a panic, which ends the run.
* Nothing bounds the loops over items, names and arguments, and nothing but the
  count of calls bounds the recursion.  A run that would go on forever has no
  outcome (`none`).
* Every change of the cursor, every call of `parseType` and every round of a loop
  is recorded, in the order in which they happen.
-/

namespace DeclGen.Native.Bytewise

open Text

/-! ## runs -/

/-- Where the parser stands, and how many calls of `parseType` are under way. -/
structure Cursor where
  position : Nat
  depth : Nat

/-- The loops of the parser. -/
inductive Loop where
  | items
  | names
  | arguments

/-- What the parser does. -/
inductive Step where
  /-- The position is set. -/
  | move
  /-- A call of `parseType` is let in. -/
  | enter
  /-- A call of `parseType` is turned away. -/
  | refuse
  /-- The call of `parseType` that was made at a cursor comes back. -/
  | leave (start : Cursor) (answer : Except ParseError Native)
  /-- The round that was begun at a cursor is over. -/
  | round (loop : Loop) (start : Cursor)

/-- A step, and the cursor after it. -/
structure Event where
  step : Step
  cursor : Cursor

/-- The cursor, and all events so far. -/
structure State where
  cursor : Cursor
  log : List Event

/-- A slice of the text was taken where no character starts or ends. -/
structure Panic where
  position : Nat

/-- What changes the state, panics or goes on forever. -/
abbrev Action := StateT State (ExceptT Panic Option)

/-- An action that may also fail.  A failure leaves the state as it is then. -/
abbrev Parser := ExceptT ParseError Action

/-- What a run comes to: nothing if it goes on forever, a panic, or an answer
with the state at the end. -/
def Parser.outcome {α : Type} (x : Parser α) (state : State) :
    Option (Except Panic (Except ParseError α × State)) := x state

/-! ## the cursor -/

/-- Takes a step, after which the cursor is as given. -/
def take (step : Step) (cursor : Cursor) : Action Unit :=
  modify fun state => ⟨cursor, state.log ++ [⟨step, cursor⟩]⟩

/-- The cursor. -/
def cursor : Parser Cursor := do return (← get).cursor

/-- Fails at the position of the cursor. -/
def fail {α : Type} (cause : Fault.Cause) : Parser α := do throw ⟨(← cursor).position, cause⟩

/-- Sets the position. -/
def moveTo (position : Nat) : Parser Unit := do take .move { (← cursor) with position }

/-- Moves the position on by so many bytes. -/
def advance (bytes : Nat) : Parser Unit := do moveTo ((← cursor).position + bytes)

/-- Ends the round of a loop that was begun at a cursor. -/
def endRound (loop : Loop) (start : Cursor) : Parser Unit := do take (.round loop start) (← cursor)

/-- A slice, unless there is none at the position. -/
def slice (slice? : String → Nat → Option String) (text : String) (position : Nat) :
    Parser String :=
  match slice? text position with
  | some part => return part
  | none => throwThe Panic ⟨position⟩

/-- The text that is parsed. -/
abbrev Source := String

variable (source : Source)

/-! ## tokens -/

/-- The text from the cursor on. -/
def rest : Parser String := do slice sliceFrom? source (← cursor).position

/-- Skips blanks. -/
def skip : Parser Unit := do
  let trimmed := skipBlanks (← rest source).toList
  moveTo (source.utf8ByteSize - utf8Length trimmed)

/-- The next character that is not blank. -/
def peek : Parser (Option Char) := do
  skip source
  return (← rest source).toList.head?

/-- Passes a token if it comes next, and says whether it does. -/
def eat (token : List Char) : Parser Bool := do
  skip source
  if token.isPrefixOf (← rest source).toList then
    advance (utf8Length token)
    return true
  else return false

/-- Passes a token that has to come next. -/
def expect (token : List Char) : Parser Unit := do
  if ← eat source token then return () else fail (.expected token)

/-- The identifier that comes next. -/
def identifier : Parser (Option (List Char)) := do
  skip source
  let text ← rest source
  let length := utf8Length (text.toList.takeWhile isIdentifierChar)
  match text.toList.head? with
  | none => return none
  | some first =>
    if length = 0 || first.isDigit then return none
    else
      let name ← slice sliceTo? text length
      advance length
      return some name.toList

/-- The identifier that has to come next, with what is expected there. -/
def expectIdentifier (cause : Fault.Cause) : Parser (List Char) := do
  match ← identifier source with
  | some name => return name
  | none => fail cause

/-! ## parts of types -/

/-- Passes the lifetime of a reference, if there is one. -/
def skipLifetime : Parser Unit := do
  if (← peek source) = some '\x27' then
    advance 1
    let _ ← identifier source
    return ()
  else return ()

/-- Passes a keyword if it comes next; if not, the position is set back. -/
def skipKeyword (keyword : List Char) : Parser Unit := do
  let start ← cursor
  match ← identifier source with
  | some name => if name = keyword then return () else moveTo start.position
  | none => moveTo start.position

/-- Passes the comma behind an item of a tuple, and says whether there is one.
Without it the tuple has to end. -/
def itemEnd : Parser Bool := do
  if ← eat source [','] then return true
  else if (← peek source) = some ')' then return false
  else fail .expectedItemEnd

/-- The length of an array. -/
def parseLength : Parser UInt64 := do
  skip source
  let digits := (← rest source).toList.takeWhile Char.isDigit
  let value := Nat.ofDigitChars 10 digits 0
  if digits.isEmpty || UInt64.size ≤ value then fail .expectedLength
  else
    advance (utf8Length digits)
    return UInt64.ofNat value

/-- The names of a path, behind those that are given. -/
def Source.parseNames (source : Source) (names : List (List Char)) : Parser (List (List Char)) := do
  let start ← cursor
  let name ← expectIdentifier source .expectedIdentifier
  let more ← eat source [':', ':']
  endRound .names start
  if more then source |>.parseNames (names ++ [name]) else return names ++ [name]
partial_fixpoint

/-- Passes what stands behind an argument, and says whether the arguments end
with it. -/
def argumentEnd : Parser Bool := do
  if ← eat source ['>'] then return true
  else
    expect source [',']
    eat source ['>']

/-! ## types -/

mutual

/-- A type, unless too many calls are under way. -/
def Source.parseType (source : Source) : Parser Native :=
    show Action (Except ParseError Native) from do
  let start := (← get).cursor
  if maxNesting ≤ start.depth then
    take .refuse start
    (fail .nestingTooDeep : Parser Native)
  else
    take .enter { start with depth := start.depth + 1 }
    let answer ← source |>.parseShape.run
    let inner := (← get).cursor
    take (.leave start answer) { inner with depth := inner.depth - 1 }
    return answer
partial_fixpoint

/-- A type of any shape. -/
def Source.parseShape (source : Source) : Parser Native := do
  match ← peek source with
  | none => fail .unexpectedEnd
  | some '&' =>
    advance 1
    skipLifetime source
    skipKeyword source "mut".toList
    source |>.parseType
  | some '(' => source |>.parseTuple
  | some '[' => source |>.parseBracketed
  | some c => if startsPath c then source |>.parsePath else fail (.unexpectedCharacter c)
partial_fixpoint

/-- A tuple. -/
def Source.parseTuple (source : Source) : Parser Native := do
  expect source ['(']
  return ofItems (← source |>.parseItems [] false)
partial_fixpoint

/-- The items of a tuple, behind those that are given, and whether a comma stands
behind the last one. -/
def Source.parseItems (source : Source) (items : List Native) (comma : Bool) :
    Parser (List Native × Bool) := do
  if ← eat source [')'] then return (items, comma)
  else
    let start ← cursor
    let item ← source |>.parseType
    let comma ← itemEnd source
    endRound .items start
    source |>.parseItems (items ++ [item]) comma
partial_fixpoint

/-- A sequence or array. -/
def Source.parseBracketed (source : Source) : Parser Native := do
  expect source ['[']
  let element ← source |>.parseType
  if ← eat source [']'] then return sequence element
  else
    expect source [';']
    let length ← parseLength source
    expect source [']']
    return array element length
partial_fixpoint

/-- A path with its arguments. -/
def Source.parsePath (source : Source) : Parser Native := do
  let _ ← eat source [':', ':']
  let names ← source |>.parseNames []
  let path := String.ofList (List.intercalate [':', ':'] names)
  if ← eat source ['<'] then return ofPath path (← source |>.parseArguments [])
  else return ofPath path []
partial_fixpoint

/-- The arguments of a path, behind those that are given. -/
def Source.parseArguments (source : Source) (arguments : List Native) : Parser (List Native) := do
  let start ← cursor
  let more ← source |>.parseArgument
  let ended ← argumentEnd source
  endRound .arguments start
  if ended then return arguments ++ more else source |>.parseArguments (arguments ++ more)
partial_fixpoint

/-- One argument of a path.  A lifetime leaves nothing. -/
def Source.parseArgument (source : Source) : Parser (List Native) := do
  if (← peek source) = some '\x27' then
    advance 1
    let _ ← expectIdentifier source .expectedLifetime
    return []
  else return [← source |>.parseType]
partial_fixpoint

end

/-- A type that is the whole text. -/
def parseWhole : Parser Native := do
  let t ← source |>.parseType
  skip source
  if (← cursor).position < source.utf8ByteSize then fail .trailingInput else return t

/-- The run of the parser from the start of the text. -/
def parse : Option (Except Panic (Except ParseError Native × State)) :=
  (parseWhole source).outcome ⟨⟨0, 0⟩, []⟩

end DeclGen.Native.Bytewise
