import DeclGen.Yaml.Scalar
import DeclGen.Yaml.Tag

/-!
# DeclGen.Yaml.Token.Lexer

The tokens of a document.

1. In block context the columns of keys and entries open and close collections.
2. What stands in front of a colon is a key if it starts where a key may start,
   on the same line and at most 1024 characters before.  Its token, and that of
   the mapping that it opens, go in front of tokens that are there already.
3. Where a line must start with a key, what is no key is an error.
-/

namespace DeclGen.Yaml

/-- A place where a key may have started: the number of the tokens in front of it
and its mark.  A required key is an error unless a colon follows. -/
structure KeyStart where
  number : Nat
  required : Bool
  index : Nat
  line : Nat
  column : Nat

/-- The tokens so far, the latest first, and the state in which the others are
read.  `column` is the least column of what is nested in the innermost block
collection, and `outer` holds those of the collections around.  `keys` holds for
each flow collection, and for the block context around them, where a key may have
started. -/
structure Lexer where
  cursor : Cursor
  tokens : List Token
  column : Nat
  outer : List Nat
  keys : List (Option KeyStart)
  keyAllowed : Bool

namespace Lexer

/-- The state at the start of a document. -/
def start (document : List Char) : Lexer :=
  ⟨.start document, [], 0, [], [none], true⟩

/-- Whether a flow collection is open. -/
def inFlow (l : Lexer) : Bool := 1 < l.keys.length

/-- The state with one more token. -/
def push (l : Lexer) (token : Token) : Lexer := { l with tokens := token :: l.tokens }

/-- The state with a token behind the first so many ones. -/
def insert (l : Lexer) (number : Nat) (token : Token) : Lexer :=
  let behind := l.tokens.length - number
  { l with tokens := l.tokens.take behind ++ token :: l.tokens.drop behind }

/-- The state with keys allowed or not. -/
def allowKey (l : Lexer) (allowed : Bool) : Lexer := { l with keyAllowed := allowed }

/-! ## keys -/

/-- The state in which keys that can no longer be keys are given up. -/
def dropStaleKeys? (l : Lexer) : Option Lexer := do
  let keys ← l.keys.mapM fun key =>
    match key with
    | some k =>
      if k.line < l.cursor.line || k.index + 1024 < l.cursor.index then
        if k.required then none else some none
      else some (some k)
    | none => some none
  some { l with keys }

/-- The state in which the innermost key is given up. -/
def dropKey? (l : Lexer) : Option Lexer :=
  match l.keys with
  | some key :: keys => if key.required then none else some { l with keys := none :: keys }
  | _ => some l

/-- The state in which a key may start here. -/
def saveKey? (l : Lexer) : Option Lexer :=
  if l.keyAllowed then do
    let c := l.cursor
    let required := !l.inFlow && l.column == c.column + 1
    let l ← l.dropKey?
    some { l with
      keys := some ⟨l.tokens.length, required, c.index, c.line, c.column⟩ :: l.keys.drop 1 }
  else some l

/-! ## block collections -/

/-- The state in which a block collection starts at a column, if it is nested
there; its token goes behind the first `number` ones. -/
def openBlock (l : Lexer) (column number : Nat) (token : Token) : Lexer :=
  if !l.inFlow && l.column ≤ column then
    { l.insert number token with column := column + 1, outer := l.column :: l.outer }
  else l

/-- The tokens that end the block collections which have their least column beyond
a given one, together with the state of columns behind them. -/
def closeColumns (limit : Nat) : Nat → List Nat → List Token → Nat × List Nat × List Token
  | column, [], tokens => (column, [], tokens)
  | column, next :: outer, tokens =>
    if limit < column then closeColumns limit next outer (.blockEnd :: tokens)
    else (column, next :: outer, tokens)

/-- The state in which all block collections with their least column beyond a given
one are closed. -/
def closeBlocks (l : Lexer) (limit : Nat) : Lexer :=
  if l.inFlow then l
  else
    let (column, outer, tokens) := closeColumns limit l.column l.outer l.tokens
    { l with column, outer, tokens }

/-! ## the tokens -/

/-- The state in front of the next token: blanks, comments and line breaks are
skipped.  Tabs do not count as blanks where a key may start in block context. -/
def skipSpace (fuel : Nat) (l : Lexer) : Lexer :=
  match fuel with
  | 0 => l
  | fuel + 1 =>
    let c := l.cursor
    let c := if c.index == 0 && c.sees (· == '\ufeff') then c.advance 1 else c
    let c := c.skipWhile fun x => x == ' ' || (l.inFlow || !l.keyAllowed) && x == '\t'
    let c := c.skipComment
    if c.sees isBreak then
      skipSpace fuel { l with cursor := c.nextLine, keyAllowed := l.keyAllowed || !l.inFlow }
    else { l with cursor := c }

/-- The state behind a token of so many characters. -/
def pushMark (l : Lexer) (width : Nat) (token : Token) : Lexer :=
  { l.push token with cursor := l.cursor.advance width }

/-- Behind a directive or a mark between documents no key may start. -/
def atMargin? (l : Lexer) : Option Lexer := do
  let l ← (l.closeBlocks 0).dropKey?
  some (l.allowKey false)

/-- A directive. -/
def directive? (l : Lexer) : Option Lexer := do
  let l ← l.atMargin?
  let (token, cursor) ← readDirective l.cursor
  some { l.push token with cursor }

/-- The start of a flow collection. -/
def openFlow? (l : Lexer) (token : Token) : Option Lexer := do
  let l ← l.saveKey?
  some (({ l with keys := none :: l.keys }.allowKey true).pushMark 1 token)

/-- The end of a flow collection. -/
def closeFlow? (l : Lexer) (token : Token) : Option Lexer := do
  let l ← l.dropKey?
  let keys := if l.inFlow then l.keys.drop 1 else l.keys
  some (({ l with keys }.allowKey false).pushMark 1 token)

/-- The comma between two items of a flow collection. -/
def comma? (l : Lexer) : Option Lexer := do
  let l ← l.dropKey?
  some ((l.allowKey true).pushMark 1 .flowEntry)

/-- The dash in front of an item. -/
def dash? (l : Lexer) : Option Lexer := do
  if !l.inFlow && !l.keyAllowed then none
  else
    let l ← (l.openBlock l.cursor.column l.tokens.length .blockSequenceStart).dropKey?
    some ((l.allowKey true).pushMark 1 .blockEntry)

/-- The question mark in front of a key. -/
def explicitKey? (l : Lexer) : Option Lexer := do
  if !l.inFlow && !l.keyAllowed then none
  else
    let l ← (l.openBlock l.cursor.column l.tokens.length .blockMappingStart).dropKey?
    some ((l.allowKey (!l.inFlow)).pushMark 1 .key)

/-- The colon in front of a value. -/
def value? (l : Lexer) : Option Lexer :=
  match l.keys with
  | some key :: keys =>
    let l := (l.insert key.number .key).openBlock key.column key.number .blockMappingStart
    some (({ l with keys := none :: keys }.allowKey false).pushMark 1 .value)
  | _ =>
    if !l.inFlow && !l.keyAllowed then none
    else
      let l := l.openBlock l.cursor.column l.tokens.length .blockMappingStart
      some ((l.allowKey (!l.inFlow)).pushMark 1 .value)

/-- A token that may start a key, read at the cursor. -/
def content? (l : Lexer) (read : Cursor → Option (Token × Cursor)) : Option Lexer := do
  let l ← l.saveKey?
  let (token, cursor) ← read l.cursor
  some { (l.allowKey false).push token with cursor }

/-- An alias or an anchor. -/
def name? (l : Lexer) (token : List Char → Token) : Option Lexer :=
  l.content? fun c => (readName (c.advance 1)).map fun (name, c) => (token name, c)

/-- A quoted scalar. -/
def quoted? (l : Lexer) (single : Bool) : Option Lexer :=
  l.content? fun c =>
    (readQuoted single [] .none (c.rest.length + 1) (c.advance 1)).map fun (text, c) =>
      (.scalar false text, c)

/-- A block scalar. -/
def block? (l : Lexer) (literal : Bool) : Option Lexer := do
  let l ← l.dropKey?
  let (text, cursor) ← readBlock literal l.column (l.cursor.advance 1)
  some { (l.allowKey true).push (.scalar false text) with cursor }

/-- A plain scalar.  Behind a line break a key may start. -/
def plain? (l : Lexer) : Option Lexer := do
  let l ← l.saveKey?
  let (text, broken, cursor) ←
    readPlain l.inFlow l.column [] .none (l.cursor.rest.length + 1) l.cursor
  some { (l.allowKey broken).push (.scalar true text) with cursor }

/-- Whether a character may stand in front of a plain scalar. -/
def startsPlain (l : Lexer) (x : Char) : Bool :=
  let c := l.cursor
  !(isSpace x || "-?:,[]\x7b\x7d#&*!|>'\"%@`".toList.contains x) ||
    x == '-' && !(c.advance 1).sees isBlank ||
    !l.inFlow && (x == '?' || x == ':') && !c.endsBehind 1

/-- The state behind the next token, in front of which the cursor stands. -/
def next? (l : Lexer) (x : Char) : Option Lexer :=
  let c := l.cursor
  let alone := c.endsBehind 1
  if c.column == 0 && x == '%' then l.directive?
  else if c.seesDocumentMark then
    l.atMargin?.map (·.pushMark 3 (if x == '-' then .documentStart else .documentEnd))
  else if x == '[' then l.openFlow? .flowSequenceStart
  else if x == '\x7b' then l.openFlow? .flowMappingStart
  else if x == ']' then l.closeFlow? .flowSequenceEnd
  else if x == '\x7d' then l.closeFlow? .flowMappingEnd
  else if x == ',' then l.comma?
  else if x == '-' && alone then l.dash?
  else if x == '?' && (l.inFlow || alone) then l.explicitKey?
  else if x == ':' && (l.inFlow || alone) then l.value?
  else if x == '*' then l.name? .aliasTo
  else if x == '&' then l.name? .anchor
  else if x == '!' then l.content? (readTag l.inFlow)
  else if x == '|' && !l.inFlow then l.block? true
  else if x == '>' && !l.inFlow then l.block? false
  else if x == '\x27' then l.quoted? true
  else if x == '"' then l.quoted? false
  else if l.startsPlain x then l.plain?
  else none

/-- The state at the end of a document: all blocks are closed and no key is
expected. -/
def finish? (l : Lexer) : Option Lexer := (l.closeBlocks 0).dropKey?

/-- The tokens of the rest of a document, in their order. -/
def run : (fuel : Nat) → Lexer → Option (List Token)
  | 0, _ => none
  | fuel + 1, l => do
    let l := l.skipSpace (l.cursor.rest.length + 1)
    let l ← l.dropStaleKeys?
    let l := l.closeBlocks (l.cursor.column + 1)
    match l.cursor.rest with
    | [] => l.finish?.map (·.tokens.reverse)
    | x :: _ => run fuel (← l.next? x)

end Lexer

/-- The tokens of a document. -/
def tokens? (document : List Char) : Option (List Token) :=
  if document.all isPrintable then (Lexer.start document).run (document.length + 2) else none

end DeclGen.Yaml
