import DeclGen.Pattern.Syntax
import DeclGen.Text.Blank
import DeclGen.Text.Letter
import DeclGen.Text.Reader

/-!
# DeclGen.Pattern.Parser

Reading patterns.  A reader takes the flag that lets blanks and comments stand
between the parts of a pattern; the two recursive readers run on fuel, and every
round of theirs consumes a character.
-/

namespace DeclGen.Pattern

open Text

/-! ## blanks and comments -/

/-- The input behind blanks and comments, which reach to the end of their line. -/
def skipTrivia : (inComment : Bool) → List Char → List Char
  | _, [] => []
  | true, c :: r => skipTrivia (c != '\n') r
  | false, c :: r =>
    if isBlank c then skipTrivia false r
    else if c = '#' then skipTrivia true r
    else c :: r

/-- The input behind what may be skipped. -/
def space (skip : Bool) (s : List Char) : List Char := if skip then skipTrivia false s else s

/-- Skipping does not lengthen the input. -/
theorem length_skipTrivia_le (inComment : Bool) (s : List Char) :
    (skipTrivia inComment s).length ≤ s.length := by
  fun_induction skipTrivia inComment s <;> grind

/-- Skipping does not lengthen the input. -/
theorem length_space_le (skip : Bool) (s : List Char) : (space skip s).length ≤ s.length := by
  cases skip
  · exact Nat.le_refl _
  · exact length_skipTrivia_le false s

/-- The characters of one kind in front, with what may be skipped between them
left out, and the rest. -/
def collect (skip : Bool) (p : Char → Bool) : List Char → List Char × List Char
  | [] => ([], [])
  | c :: r =>
    if p c then
      let (cs, rest) := collect skip p (space skip r)
      (c :: cs, rest)
    else ([], c :: r)
termination_by s => s.length
decreasing_by exact Nat.lt_succ_of_le (length_space_le skip r)

/-! ## escapes -/

/-- A character that means something in patterns. -/
def isMeta (c : Char) : Bool := "\\.+*?()|[]\x7b\x7d^$#&-~".toList.contains c

/-- Whether an escaped character stands for itself. -/
def standsForItself (c : Char) : Bool :=
  isMeta c || (c.toNat < 0x80 && !c.isAlphanum && c != '<' && c != '>')

/-- The control character that a letter stands for. -/
def control? : Char → Option Char
  | 'a' => some '\x07'
  | 'f' => some '\x0c'
  | 't' => some '\t'
  | 'n' => some '\n'
  | 'r' => some '\r'
  | 'v' => some '\x0b'
  | _ => none

/-- The assertion that a letter or a sign stands for. -/
def anchor? : Char → Option Anchor
  | 'A' => some .textStart
  | 'z' => some .textEnd
  | 'B' => some .notWord
  | '<' => some .wordStart
  | '>' => some .wordEnd
  | _ => none

/-- The class that a letter stands for; a capital negates it. -/
def shorthand? : Char → Option Syntax
  | 'd' => some (.shorthand false .digit)
  | 'D' => some (.shorthand true .digit)
  | 's' => some (.shorthand false .space)
  | 'S' => some (.shorthand true .space)
  | 'w' => some (.shorthand false .word)
  | 'W' => some (.shorthand true .word)
  | _ => none

/-- So many hexadecimal digits. -/
def readDigits (skip : Bool) : (count : Nat) → Reader (List Char)
  | 0, s => some ([], s)
  | count + 1, s => match space skip s with
    | c :: r => do
      let _ ← hexDigit? c
      let (digits, r) ← readDigits skip count r
      some (c :: digits, r)
    | [] => none

/-- A character written by its code point, behind the letter that tells how many
digits there are unless braces stand around them. -/
def readCodePoint (skip : Bool) (count : Nat) : Reader Syntax := fun s =>
  match space skip s with
  | '\x7b' :: r => match collect skip (· != '\x7d') (space skip r) with
    | (digits, _ :: rest) => do
      if digits.isEmpty then none
      else
        let c ← scalar? (← hexValue? 16 digits)
        some (.literal ⟨c, false⟩, rest)
    | (_, []) => none
  | r => do
    let (digits, rest) ← readDigits skip count r
    let c ← scalar? (← hexValue? 16 digits)
    some (.literal ⟨c, count == 2⟩, rest)

/-- The name of a property with its value, which stand on either side of `!=`, of
`:` or of `=`. -/
def propertyQuery (name : List Char) : PropertyQuery :=
  let valueAfter (sign : List Char) : Option PropertyQuery :=
    (List.range name.length).findSome? fun n =>
      if sign.isPrefixOf (name.drop n) then
        some (.value (name.take n) (name.drop (n + sign.length)))
      else none
  (((valueAfter ['!', '=']).or (valueAfter [':'])).or (valueAfter ['='])).getD (.name name)

/-- A property, behind its letter: one letter, or a name in braces. -/
def readProperty (skip negated : Bool) : Reader Syntax := fun s =>
  match space skip s with
  | '\x7b' :: r => match collect skip (· != '\x7d') (space skip r) with
    | (name, _ :: rest) => some (.property negated (propertyQuery name), rest)
    | (_, []) => none
  | '\\' :: _ => none
  | c :: r => some (.property negated (.name [c]), r)
  | [] => none

/-- The assertion in braces behind `\b`.  A brace that no letter follows starts a
repetition instead. -/
def readWordAnchor (skip : Bool) : Reader Syntax
  | '\x7b' :: r =>
    let isLetter (c : Char) : Bool := c.isAlpha || c == '-'
    match collect skip isLetter (space skip r) with
    | ([], _ :: _) => some (.anchor .word, '\x7b' :: r)
    | (name, '\x7d' :: rest) => do
      let kind ← [("start", Anchor.wordStart), ("end", .wordEnd), ("start-half", .wordStartHalf),
        ("end-half", .wordEndHalf)].lookup (String.ofList name)
      some (.anchor kind, rest)
    | _ => none
  | r => some (.anchor .word, r)

/-- An escape, behind its backslash. -/
def readEscape (skip : Bool) : Reader Syntax
  | [] => none
  | 'x' :: r => readCodePoint skip 2 r
  | 'u' :: r => readCodePoint skip 4 r
  | 'U' :: r => readCodePoint skip 8 r
  | 'p' :: r => readProperty skip false r
  | 'P' :: r => readProperty skip true r
  | 'b' :: r => readWordAnchor skip r
  | c :: r =>
    if standsForItself c then some (.literal ⟨c, false⟩, r)
    else match shorthand? c, control? c, anchor? c with
      | some shorthand, _, _ => some (shorthand, r)
      | _, some control, _ => some (.literal ⟨control, false⟩, r)
      | _, _, some anchor => some (.anchor anchor, r)
      | _, _, _ => none

/-! ## classes -/

/-- The ASCII classes that have names. -/
def namedClasses : List (String × String) :=
  [("alnum", "30-39 41-5A 61-7A"), ("alpha", "41-5A 61-7A"), ("ascii", "0-7F"),
   ("blank", "9 20"), ("cntrl", "0-1F 7F"), ("digit", "30-39"), ("graph", "21-7E"),
   ("lower", "61-7A"), ("print", "20-7E"), ("punct", "21-2F 3A-40 5B-60 7B-7E"),
   ("space", "9-D 20"), ("upper", "41-5A"), ("word", "30-39 41-5A 5F 61-7A"),
   ("xdigit", "30-39 41-46 61-66")]

/-- The class with a name. -/
def namedClass? (name : List Char) : Option CharSet :=
  (namedClasses.lookup (String.ofList name)).map fun ranges => .ofText [ranges]

/-- A class with a name, as in `[:alpha:]` and `[:^alpha:]`, behind its bracket. -/
def readNamedClass : Reader ClassSyntax
  | ':' :: r =>
    let (negated, r) := match r with
      | '^' :: r => (true, r)
      | r => (false, r)
    match r.dropWhile (· != ':') with
    | ':' :: ']' :: rest => do
      let set ← namedClass? (r.takeWhile (· != ':'))
      some (.named negated set, rest)
    | _ => none
  | _ => none

/-- What an escape stands for in a class; an assertion has no place there. -/
def ClassSyntax.ofSyntax? : Syntax → Option ClassSyntax
  | .literal l => some (.literal l)
  | .property negated query => some (.property negated query)
  | .shorthand negated kind => some (.shorthand negated kind)
  | _ => none

/-- One character or escape of a class. -/
def readClassItem (skip : Bool) : Reader ClassSyntax
  | [] => none
  | '\\' :: r => do
    let (escape, r) ← readEscape skip r
    some (← ClassSyntax.ofSyntax? escape, r)
  | c :: r => some (.literal ⟨c, false⟩, r)

/-- The next character behind the current one, without what may be skipped.  Of a
comment only the sign in front is skipped. -/
def peekBehind (skip : Bool) (s : List Char) : Option Char :=
  if skip then
    let rest := match s.dropWhile isBlank with
      | '#' :: r => r.dropWhile isBlank
      | r => r
    rest.head?.or s.head?
  else s.head?

/-- A range of characters, or one character or escape.  A dash makes a range
unless a bracket or another dash follows it. -/
def readClassRange (skip : Bool) : Reader ClassSyntax := fun s => do
  let (first, r) ← readClassItem skip s
  match space skip r with
  | '-' :: r =>
    if peekBehind skip r = some ']' || peekBehind skip r = some '-' then some (first, '-' :: r)
    else
      let (last, rest) ← readClassItem skip (space skip r)
      match first, last with
      | .literal a, .literal b =>
        if a.char ≤ b.char then some (.range a b, rest) else none
      | _, _ => none
  | r => some (first, r)

/-- The opening of a class behind its bracket: whether it is negated, and the
dashes or the bracket in front that stand for themselves. -/
def readClassOpening (skip : Bool) (s : List Char) : Bool × List ClassSyntax × List Char :=
  let (negated, r) := match space skip s with
    | '^' :: r => (true, space skip r)
    | r => (false, r)
  match collect skip (· == '-') r with
  | ([], ']' :: rest) => (negated, [.literal ⟨']', false⟩], rest)
  | (dashes, rest) => (negated, dashes.map fun c => .literal ⟨c, false⟩, rest)

/-- The operand that ends, joined to the operation in front of it. -/
def closeOperand (pending : Option (ClassOp × ClassSyntax)) (items : List ClassSyntax) :
    ClassSyntax :=
  match pending with
  | none => .ofItems items
  | some (kind, left) => .op kind left (.ofItems items)

/-- The body of a class up to its closing bracket.  Operations are read from left
to right. -/
def readClassBody (skip : Bool) (pending : Option (ClassOp × ClassSyntax))
    (items : List ClassSyntax) : (fuel : Nat) → Reader ClassSyntax
  | 0, _ => none
  | fuel + 1, s => match space skip s with
    | [] => none
    | ']' :: r => some (closeOperand pending items, r)
    | '[' :: r => match readNamedClass r with
      | some (named, r) => readClassBody skip pending (items ++ [named]) fuel r
      | none => do
        let (negated, leading, r) := readClassOpening skip r
        let (body, r) ← readClassBody skip none leading fuel r
        readClassBody skip pending (items ++ [.bracketed negated body]) fuel r
    | '&' :: '&' :: r =>
      readClassBody skip (some (.intersection, closeOperand pending items)) [] fuel r
    | '-' :: '-' :: r =>
      readClassBody skip (some (.difference, closeOperand pending items)) [] fuel r
    | '~' :: '~' :: r =>
      readClassBody skip (some (.symmetricDifference, closeOperand pending items)) [] fuel r
    | r => do
      let (item, r) ← readClassRange skip r
      readClassBody skip pending (items ++ [item]) fuel r

/-- A class, behind its opening bracket. -/
def readClass (skip : Bool) : Reader Syntax := fun s => do
  let (negated, leading, r) := readClassOpening skip s
  let (body, r) ← readClassBody skip none leading (r.length + 1) r
  some (.bracketed negated body, r)

/-! ## repetitions -/

/-- A count below 2^32, with blanks around it; `none` inside if there are no
digits. -/
def readCount (skip : Bool) : Reader (Option Nat) := fun s =>
  let (digits, r) := collect skip Char.isDigit (s.dropWhile isBlank)
  let rest := space skip (r.dropWhile isBlank)
  if digits.isEmpty then some (none, r)
  else
    let count := Nat.ofDigitChars 10 digits 0
    if count < UInt32.size then some (some count, rest) else none

/-- The bounds of a counted repetition, behind its opening brace. -/
def readBounds (skip : Bool) : Reader (Nat × Option Nat) := fun s => do
  let (least, r) ← readCount skip (space skip s)
  let least ← least
  match r with
  | '\x7d' :: r => some ((least, some least), r)
  | ',' :: r => match space skip r with
    | '\x7d' :: r => some ((least, none), r)
    | r => do
      let (most, r) ← readCount skip r
      let most ← most
      match r with
      | '\x7d' :: r => if least ≤ most then some ((least, some most), r) else none
      | _ => none
  | _ => none

/-- The input behind the sign that makes a repetition lazy. -/
def skipLazy : List Char → List Char
  | '?' :: r => r
  | r => r

/-- The bounds of a repetition, from its sign on. -/
def readRepetition (skip : Bool) : Reader (Nat × Option Nat)
  | '?' :: r => some ((0, some 1), skipLazy r)
  | '*' :: r => some ((0, none), skipLazy r)
  | '+' :: r => some ((1, none), skipLazy r)
  | '\x7b' :: r => (readBounds skip r).map fun (bounds, r) => (bounds, skipLazy (space skip r))
  | _ => none

/-! ## groups -/

/-- The flag with a letter. -/
def flag? : Char → Option Flag
  | 'i' => some .ignoreCase
  | 'm' => some .multiLine
  | 's' => some .dotAll
  | 'U' => some .swapGreed
  | 'u' => some .unicode
  | 'R' => some .carriageReturn
  | 'x' => some .skipBlanks
  | _ => none

/-- Flags up to a colon or a closing bracket.  A dash clears the flags behind it;
it stands there once, and no flag stands there twice. -/
def readFlags (clearing dangling : Bool) (change : FlagChange) : Reader (FlagChange × Bool)
  | [] => none
  | ':' :: r => if dangling then none else some ((change, true), r)
  | ')' :: r => if dangling then none else some ((change, false), r)
  | '-' :: r => if clearing then none else readFlags true true change r
  | c :: r => do
    let flag ← flag? c
    if change.any (·.1 = flag) then none
    else readFlags clearing false (change ++ [(flag, !clearing)]) r

/-- The name of a group up to its closing angle bracket. -/
def readGroupName : Reader (List Char) := fun s =>
  let name := s.takeWhile (· != '>')
  match name, s.dropWhile (· != '>') with
  | first :: others, _ :: rest =>
    let inName (c : Char) : Bool := c == '_' || c == '.' || c == '[' || c == ']' || isAlphanumeric c
    if (first == '_' || isAlphabetic first) && others.all inName then some (name, rest) else none
  | _, _ => none

/-- How a group starts. -/
inductive GroupOpening where
  /-- Flags for the rest of the group around. -/
  | flags (change : FlagChange)
  /-- A group with flags of its own. -/
  | plain (change : FlagChange)
  /-- A group that captures, perhaps under a name. -/
  | capture (name : Option (List Char))

/-- The start of a group, behind its opening bracket.  Groups that look around
are refused. -/
def readGroupOpening (skip : Bool) : Reader GroupOpening := fun s =>
  match space skip s with
  | '?' :: '=' :: _ => none
  | '?' :: '!' :: _ => none
  | '?' :: '<' :: '=' :: _ => none
  | '?' :: '<' :: '!' :: _ => none
  | '?' :: 'P' :: '<' :: r => (readGroupName r).map fun (name, r) => (.capture (some name), r)
  | '?' :: '<' :: r => (readGroupName r).map fun (name, r) => (.capture (some name), r)
  | '?' :: r => do
    let ((change, isGroup), r) ← readFlags false false [] r
    if isGroup then some (.plain change, r)
    else if change.isEmpty then none
    else some (.flags change, r)
  | r => some (.capture none, r)

/-! ## patterns -/

/-- Whether blanks are skipped after a change of flags. -/
def skipsAfter (skip : Bool) (change : FlagChange) : Bool :=
  (change.lookup .skipBlanks).getD skip

/-- The names of groups so far with one more; a name may occur once. -/
def addName? (names : List (List Char)) : Option (List Char) → Option (List (List Char))
  | none => some names
  | some name => if names.contains name then none else some (name :: names)

/-- The branches and the parts that are read, as one pattern. -/
def closeGroup (branches parts : List Syntax) : Syntax :=
  .ofBranches (branches ++ [.ofSequence parts])

/-- A pattern up to the bracket that closes the group around it, or to the end.
The names of groups are passed on. -/
def readParts (skip : Bool) (names : List (List Char)) (branches parts : List Syntax) :
    (fuel : Nat) → Reader (Syntax × List (List Char))
  | 0, _ => none
  | fuel + 1, s => match space skip s with
    | [] => some ((closeGroup branches parts, names), [])
    | ')' :: r => some ((closeGroup branches parts, names), ')' :: r)
    | '|' :: r => readParts skip names (branches ++ [.ofSequence parts]) [] fuel r
    | '(' :: r => do
      let group (captures : Bool) (change : FlagChange) (names : List (List Char))
          (r : List Char) : Option ((Syntax × List (List Char)) × List Char) := do
        let ((body, names), r) ← readParts (skipsAfter skip change) names [] [] fuel r
        match r with
        | ')' :: r => readParts skip names branches (parts ++ [.group captures change body]) fuel r
        | _ => none
      match ← readGroupOpening skip r with
      | (.flags change, r) =>
        readParts (skipsAfter skip change) names branches (parts ++ [.setFlags change]) fuel r
      | (.plain change, r) => group false change names r
      | (.capture name, r) => do group true [] (← addName? names name) r
    | '[' :: r => do
      let (cls, r) ← readClass skip r
      readParts skip names branches (parts ++ [cls]) fuel r
    | '\\' :: r => do
      let (escape, r) ← readEscape skip r
      readParts skip names branches (parts ++ [escape]) fuel r
    | '.' :: r => readParts skip names branches (parts ++ [.dot]) fuel r
    | '^' :: r => readParts skip names branches (parts ++ [.anchor .lineStart]) fuel r
    | '$' :: r => readParts skip names branches (parts ++ [.anchor .lineEnd]) fuel r
    | c :: r =>
      if c = '?' || c = '*' || c = '+' || c = '\x7b' then do
        let body ← parts.getLast?
        if body.repeatable then
          let ((least, most), r) ← readRepetition skip (c :: r)
          readParts skip names branches (parts.dropLast ++ [.repetition least most body]) fuel r
        else none
      else readParts skip names branches (parts ++ [.literal ⟨c, false⟩]) fuel r

/-- The pattern that a text writes. -/
def Syntax.parse? (text : List Char) : Option Syntax :=
  match readParts false [] [] [] (text.length + 1) text with
  | some ((pattern, _), []) => if pattern.depth ≤ maxDepth then some pattern else none
  | _ => none

end DeclGen.Pattern
