import DeclGen.Text.Reader
import DeclGen.Yaml.Cursor

/-!
# DeclGen.Yaml.Scalar

Reading scalars: plain ones, quoted ones and blocks.

1. Between two words of a line the blanks are kept.
2. Between two lines a single line break becomes a space, and of several the
   first is dropped.
3. A block keeps its lines, or folds them unless they start with a blank; its
   last line breaks are clipped, kept or stripped.
-/

namespace DeclGen.Yaml

open Text

/-! ## gaps -/

/-- What stands between two words: the blanks of a line, or line breaks, the
first of which and the others are apart.  The first break is without text if it is
escaped. -/
structure Gap where
  blanks : List Char
  first : Option (List Char)
  more : List Char

namespace Gap

/-- No gap. -/
def none : Gap := ⟨[], .none, []⟩

/-- Whether there is a gap. -/
def isNone (g : Gap) : Bool := g.blanks.isEmpty && g.first.isNone

/-- The gap with one more blank; behind a line break blanks do not count. -/
def addBlank (g : Gap) (c : Char) : Gap :=
  if g.first.isSome then g else { g with blanks := g.blanks ++ [c] }

/-- The gap with one more line break. -/
def addBreak (g : Gap) (c : Char) : Gap :=
  match g.first with
  | .none => ⟨[], some (breakText c), g.more⟩
  | some _ => { g with more := g.more ++ breakText c }

/-- The text of a gap. -/
def text (g : Gap) : List Char :=
  match g.first with
  | .none => g.blanks
  | some first =>
    if first = ['\n'] then if g.more.isEmpty then [' '] else g.more else first ++ g.more

end Gap

/-! ## plain scalars -/

/-- Whether a character ends a plain scalar in flow collections. -/
def isFlowMark (c : Char) : Bool := c == ',' || c == '[' || c == ']' || c == '\x7b' || c == '\x7d'

/-- Whether a plain scalar ends in front of the next character. -/
def endsPlain (flow : Bool) (c : Cursor) : Bool :=
  c.sees (· == ':') && c.endsBehind 1 || flow && c.sees isFlowMark

/-- Whether a colon stands where flow collections have no place for it. -/
def hasStrayColon (flow : Bool) (c : Cursor) : Bool :=
  flow && c.sees (· == ':') && (c.advance 1).sees fun x => isFlowMark x || x == '?'

/-- A plain scalar from some word on: its text, whether line breaks follow it, and
the cursor behind them.  Its lines are indented to `column` at least, unless it is
in a flow collection. -/
def readPlain (flow : Bool) (column : Nat) (text : List Char) (gap : Gap) :
    (fuel : Nat) → Cursor → Option (List Char × Bool × Cursor)
  | 0, _ => none
  | fuel + 1, c =>
    let done := some (text, gap.first.isSome, c)
    match c.rest with
    | [] => done
    | x :: _ =>
      if isBlank x then
        if gap.first.isSome && c.column < column && x == '\t' then none
        else readPlain flow column text (gap.addBlank x) fuel (c.advance 1)
      else if isBreak x then readPlain flow column text (gap.addBreak x) fuel c.nextLine
      else if !gap.isNone && (!flow && c.column < column || c.seesDocumentMark || x == '#') then
        done
      else if hasStrayColon flow c then none
      else if endsPlain flow c then done
      else readPlain flow column (text ++ gap.text ++ [x]) .none fuel (c.advance 1)

/-! ## quoted scalars -/

/-- The character that an escape of one letter stands for. -/
def escape? : Char → Option Char
  | '0' => some '\x00'
  | 'a' => some '\x07'
  | 'b' => some '\x08'
  | 't' => some '\t'
  | '\t' => some '\t'
  | 'n' => some '\n'
  | 'v' => some '\x0b'
  | 'f' => some '\x0c'
  | 'r' => some '\r'
  | 'e' => some '\x1b'
  | ' ' => some ' '
  | '"' => some '"'
  | '/' => some '/'
  | '\\' => some '\\'
  | 'N' => some '\x85'
  | '_' => some '\xa0'
  | 'L' => some '\u2028'
  | 'P' => some '\u2029'
  | _ => none

/-- The number of digits behind the letter of an escape by code point. -/
def escapeDigits? : Char → Option Nat
  | 'x' => some 2
  | 'u' => some 4
  | 'U' => some 8
  | _ => none

/-- The character of an escape, behind its backslash, and the number of characters
that the escape has. -/
def readEscape? : List Char → Option (Char × Nat)
  | [] => none
  | x :: r => match escapeDigits? x with
    | some count => do
      let (n, _) ← readHex count r
      some (← scalar? n, count + 1)
    | none => (escape? x).map (·, 1)

/-- A quoted scalar, behind its opening quote: its text and the cursor behind its
closing quote. -/
def readQuoted (single : Bool) (text : List Char) (gap : Gap) :
    (fuel : Nat) → Cursor → Option (List Char × Cursor)
  | 0, _ => none
  | fuel + 1, c => match c.rest with
    | [] => none
    | x :: r =>
      if isBlank x then readQuoted single text (gap.addBlank x) fuel (c.advance 1)
      else if isBreak x then readQuoted single text (gap.addBreak x) fuel c.nextLine
      else if c.seesDocumentMark then none
      else
        let text := text ++ gap.text
        if single then
          if x == '\x27' then
            if r.head? = some '\x27' then
              readQuoted single (text ++ ['\x27']) .none fuel (c.advance 2)
            else some (text, c.advance 1)
          else readQuoted single (text ++ [x]) .none fuel (c.advance 1)
        else if x == '"' then some (text, c.advance 1)
        else if x == '\\' then
          if r.head?.any isBreak then
            readQuoted single text ⟨[], some [], []⟩ fuel (c.advance 1).nextLine
          else match readEscape? r with
            | some (y, width) =>
              readQuoted single (text ++ [y]) .none fuel (c.advance (width + 1))
            | none => none
        else readQuoted single (text ++ [x]) .none fuel (c.advance 1)

/-! ## blocks -/

/-- What becomes of the line breaks at the end of a block. -/
inductive Chomping where
  | clip
  | keep
  | strip
  deriving DecidableEq, Repr

/-- The chomping that a sign stands for. -/
def chomping? : Char → Option Chomping
  | '+' => some .keep
  | '-' => some .strip
  | _ => none

/-- The indicators of a block: its chomping and its own indentation, in either
order. -/
def readBlockHeader (c : Cursor) : Option (Chomping × Option Nat × Cursor) :=
  let digit? (c : Cursor) : Option (Option Nat × Cursor) :=
    match c.peek? with
    | some x =>
      if x == '0' then none
      else if x.isDigit then some (some (x.toNat - '0'.toNat), c.advance 1)
      else some (none, c)
    | none => some (none, c)
  match c.peek?.bind chomping? with
  | some chomping => (digit? (c.advance 1)).map fun (indent, c) => (chomping, indent, c)
  | none => do
    let (indent, c) ← digit? c
    match indent, c.peek?.bind chomping? with
    | some _, some chomping => some (chomping, indent, c.advance 1)
    | _, _ => some (.clip, indent, c)

/-- The indentation and the empty lines in front of a line of a block: the line
breaks, the greatest column that was reached, and the cursor.  `indent` is the
block's column, if it is known. -/
def readBreaks (indent : Option Nat) (breaks : List Char) (widest : Nat) :
    (fuel : Nat) → Cursor → Option (List Char × Nat × Cursor)
  | 0, _ => none
  | fuel + 1, c =>
    let within (c : Cursor) : Bool := indent.all (c.column < ·)
    let spaces := c.rest.takeWhile (· == ' ')
    let c := c.advance (match indent with
      | some column => min spaces.length (column - c.column)
      | none => spaces.length)
    let widest := max widest c.column
    if within c && c.sees (· == '\t') then none
    else match c.rest with
      | x :: _ =>
        if isBreak x then readBreaks indent (breaks ++ breakText x) widest fuel c.nextLine
        else some (breaks, widest, c)
      | [] => some (breaks, widest, c)

/-- The lines of a block from some line on.  `latest` is the line break behind the
line in front, `breaks` are those of the empty lines since then, and `blank` tells
whether the line in front starts with a blank. -/
def readLines (literal : Bool) (indent : Nat) (text latest breaks : List Char) (blank : Bool) :
    (fuel : Nat) → Cursor → Option (List Char × List Char × List Char × Cursor)
  | 0, _ => none
  | fuel + 1, c =>
    if c.column == indent && !c.rest.isEmpty then do
      let starts := c.sees isBlank
      let joint :=
        if !literal && latest == ['\n'] && !blank && !starts then
          if breaks.isEmpty then [' '] else []
        else latest
      let line := c.rest.takeWhile (!isBreak ·)
      let c := c.advance line.length
      let (ending, c) := match c.rest with
        | x :: _ => (breakText x, c.nextLine)
        | [] => ([], c)
      let (more, _, c) ← readBreaks (some indent) [] 0 (c.rest.length + 1) c
      readLines literal indent (text ++ joint ++ breaks ++ line) ending more starts fuel c
    else some (text, latest, breaks, c)

/-- A block, behind its indicator: its text and the cursor behind it.  `column` is
the least column of what is nested here. -/
def readBlock (literal : Bool) (column : Nat) (c : Cursor) : Option (List Char × Cursor) := do
  let (chomping, own, c) ← readBlockHeader c
  let c ← c.endOfLine?
  let given := own.map (max column 1 - 1 + ·)
  let (breaks, widest, c) ← readBreaks given [] 0 (c.rest.length + 1) c
  let indent := given.getD (max (max widest column) 1)
  let (text, latest, breaks, c) ←
    readLines literal indent [] [] breaks false (c.rest.length + 1) c
  match chomping with
  | .strip => some (text, c)
  | .clip => some (text ++ latest, c)
  | .keep => some (text ++ latest ++ breaks, c)

end DeclGen.Yaml
