import DeclGen.Yaml.Node
import DeclGen.Yaml.Token

/-!
# DeclGen.Yaml.Node.Parser

The node that the tokens of a document form.  A document has one node; a second
one is an error.  Readers take tokens and give what they read with the tokens
behind it; they run on fuel, and every round of theirs consumes a token.
-/

namespace DeclGen.Yaml

/-- A reader of tokens. -/
abbrev TokenReader (α : Type) := List Token → Option (α × List Token)

/-- Tag handles with the texts that they stand for. -/
abbrev TagHandles := List (List Char × List Char)

/-- The handles that every document has. -/
def standardHandles : TagHandles :=
  [(['!'], ['!']), (['!', '!'], "tag:yaml.org,2002:".toList)]

/-- A tag in full.  A tag without a handle is in full already. -/
def fullTag? (handles : TagHandles) (handle suffix : List Char) : Option (List Char) :=
  if handle.isEmpty then some suffix else (handles.lookup handle).map (· ++ suffix)

/-- The anchor and the tag in front of a node, in either order. -/
def readProperties (handles : TagHandles) :
    TokenReader (Option (List Char) × Option (List Char))
  | .anchor name :: .tag handle suffix :: r => do
    some ((some name, some (← fullTag? handles handle suffix)), r)
  | .tag handle suffix :: .anchor name :: r => do
    some ((some name, some (← fullTag? handles handle suffix)), r)
  | .anchor name :: r => some ((some name, none), r)
  | .tag handle suffix :: r => do some ((none, some (← fullTag? handles handle suffix)), r)
  | r => some ((none, none), r)

/-- Where a node may stand. -/
inductive Place where
  /-- In a flow collection. -/
  | flow
  /-- In block context. -/
  | block
  /-- In a block mapping, where the dashes of a sequence need no indentation. -/
  | mappingValue
  deriving DecidableEq, Repr

/-- Whether one of some tokens comes next. -/
def comesNext (tokens : List Token) (r : List Token) : Bool :=
  r.head?.any tokens.contains

mutual

/-- A node. -/
def readNode (handles : TagHandles) (place : Place) :
    (fuel : Nat) → TokenReader (Node (List Char))
  | 0, _ => none
  | _ + 1, .aliasTo name :: r => some (.aliasTo name, r)
  | fuel + 1, tokens => do
    let ((anchor, tag), r) ← readProperties handles tokens
    match r with
    | .scalar plain text :: r => some (.scalar anchor tag plain (String.ofList text), r)
    | .flowSequenceStart :: r => do
      let (items, r) ← readFlowItems handles true fuel r
      some (.sequence anchor items, r)
    | .flowMappingStart :: r => do
      let (entries, r) ← readFlowEntries handles true fuel r
      some (.mapping anchor entries, r)
    | r =>
      if place = .mappingValue && comesNext [.blockEntry] r then do
        let (items, r) ← readLooseItems handles fuel r
        some (.sequence anchor items, r)
      else if place ≠ .flow && comesNext [.blockSequenceStart] r then do
        let (items, r) ← readBlockItems handles fuel (r.drop 1)
        some (.sequence anchor items, r)
      else if place ≠ .flow && comesNext [.blockMappingStart] r then do
        let (entries, r) ← readBlockEntries handles fuel (r.drop 1)
        some (.mapping anchor entries, r)
      else if anchor.isSome || tag.isSome then some (.scalar anchor tag true "", r)
      else none

/-- A node, unless one of some tokens comes next and nothing is written. -/
def readNodeBefore (handles : TagHandles) (place : Place) (ends : List Token) :
    (fuel : Nat) → TokenReader (Node (List Char))
  | 0, _ => none
  | fuel + 1, r => if comesNext ends r then some (.empty, r) else readNode handles place fuel r

/-- A value with its sign, which may be missing. -/
def readValueBefore (handles : TagHandles) (place : Place) (ends : List Token) :
    (fuel : Nat) → TokenReader (Node (List Char))
  | 0, _ => none
  | fuel + 1, .value :: r => readNodeBefore handles place ends fuel r
  | _ + 1, r => some (.empty, r)

/-- The items of a block sequence up to its end. -/
def readBlockItems (handles : TagHandles) : (fuel : Nat) → TokenReader (List (Node (List Char)))
  | 0, _ => none
  | _ + 1, .blockEnd :: r => some ([], r)
  | fuel + 1, .blockEntry :: r => do
    let (item, r) ← readNodeBefore handles .block [.blockEntry, .blockEnd] fuel r
    let (items, r) ← readBlockItems handles fuel r
    some (item :: items, r)
  | _ + 1, _ => none

/-- The items of a block sequence that is not indented. -/
def readLooseItems (handles : TagHandles) : (fuel : Nat) → TokenReader (List (Node (List Char)))
  | 0, _ => none
  | fuel + 1, .blockEntry :: r => do
    let (item, r) ← readNodeBefore handles .block [.blockEntry, .key, .value, .blockEnd] fuel r
    let (items, r) ← readLooseItems handles fuel r
    some (item :: items, r)
  | _ + 1, r => some ([], r)

/-- The entries of a block mapping up to its end. -/
def readBlockEntries (handles : TagHandles) :
    (fuel : Nat) → TokenReader (List (Node (List Char) × Node (List Char)))
  | 0, _ => none
  | _ + 1, .blockEnd :: r => some ([], r)
  | fuel + 1, .key :: r => do
    let ends := [Token.key, .value, .blockEnd]
    let (key, r) ← readNodeBefore handles .mappingValue ends fuel r
    let (value, r) ← readValueBefore handles .mappingValue ends fuel r
    let (entries, r) ← readBlockEntries handles fuel r
    some ((key, value) :: entries, r)
  | _ + 1, _ => none

/-- The items of a flow sequence up to its end.  A key makes a mapping of one
entry; where the key is missing, the token in its place is dropped. -/
def readFlowItems (handles : TagHandles) (first : Bool) :
    (fuel : Nat) → TokenReader (List (Node (List Char)))
  | 0, _ => none
  | _ + 1, .flowSequenceEnd :: r => some ([], r)
  | fuel + 1, tokens => do
    let r ← match first, tokens with
      | true, r => some r
      | false, .flowEntry :: r => some r
      | false, _ => none
    match r with
    | .flowSequenceEnd :: r => some ([], r)
    | .key :: r => do
      let missing := comesNext [.value, .flowEntry, .flowSequenceEnd] r
      let (key, r) ← if missing then some (.empty, r.drop 1) else readNode handles .flow fuel r
      let (value, r) ← readValueBefore handles .flow [.flowEntry, .flowSequenceEnd] fuel r
      let (items, r) ← readFlowItems handles false fuel r
      some (.mapping none [(key, value)] :: items, r)
    | r => do
      let (item, r) ← readNode handles .flow fuel r
      let (items, r) ← readFlowItems handles false fuel r
      some (item :: items, r)

/-- The entries of a flow mapping up to its end. -/
def readFlowEntries (handles : TagHandles) (first : Bool) :
    (fuel : Nat) → TokenReader (List (Node (List Char) × Node (List Char)))
  | 0, _ => none
  | _ + 1, .flowMappingEnd :: r => some ([], r)
  | fuel + 1, tokens => do
    let r ← match first, tokens with
      | true, r => some r
      | false, .flowEntry :: r => some r
      | false, _ => none
    match r with
    | .flowMappingEnd :: r => some ([], r)
    | .key :: r => do
      let (key, r) ← readNodeBefore handles .flow [.value, .flowEntry, .flowMappingEnd] fuel r
      let (value, r) ← readValueBefore handles .flow [.flowEntry, .flowMappingEnd] fuel r
      let (entries, r) ← readFlowEntries handles false fuel r
      some ((key, value) :: entries, r)
    | r => do
      let (key, r) ← readNode handles .flow fuel r
      let (entries, r) ← readFlowEntries handles false fuel r
      some ((key, .empty) :: entries, r)

end

/-! ## documents -/

/-- The tag handles that directives declare.  A handle is declared once, and there
is at most one version, which is 1.1 or 1.2. -/
def readDirectives (versioned : Bool) (handles : TagHandles) : TokenReader TagHandles
  | .version major minor :: r =>
    if !versioned && major = 1 && (minor = 1 || minor = 2) then readDirectives true handles r
    else none
  | .tagDirective handle pre :: r =>
    if (handles.lookup handle).isSome then none
    else readDirectives versioned ((handle, pre) :: handles) r
  | r => some (handles, r)

/-- Whether tokens start a document with a mark or directives. -/
def startsExplicitly : List Token → Bool
  | .version .. :: _ => true
  | .tagDirective .. :: _ => true
  | .documentStart :: _ => true
  | _ => false

/-- The node of a document's tokens. -/
def Node.ofTokens? (tokens : List Token) : Option (Node (List Char)) := do
  let fuel := 4 * tokens.length + 4
  let (node, r) ←
    if startsExplicitly tokens then
      let (handles, r) ← readDirectives false [] tokens
      match r with
      | .documentStart :: r =>
        if r.isEmpty || startsExplicitly r || comesNext [.documentEnd] r then some (.empty, r)
        else readNode (handles ++ standardHandles) .block fuel r
      | _ => none
    else readNode standardHandles .block fuel tokens
  if (r.dropWhile (· == .documentEnd)).isEmpty then some node else none

end DeclGen.Yaml
