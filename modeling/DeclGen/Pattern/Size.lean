import DeclGen.Pattern.ByteRange
import DeclGen.Pattern.Expr

/-!
# DeclGen.Pattern.Size

The size of an expression: the memory of the automata that match it forwards and
backwards, byte by byte.  A pattern is refused if either automaton is too large.

1. A state takes 32 bytes, each transition of a state with several transitions 8
   bytes, and each way out of a branching state 4 bytes.
2. A repetition is written out as often as its bounds say.
3. The forward automaton shares the states of a set that have the same
   transitions, and it has two states around each group that captures.  The
   backward automaton shares the states of common leading bytes.
-/

namespace DeclGen.Pattern

/-- The direction in which an automaton reads. -/
inductive Direction where
  | forward
  | backward
  deriving DecidableEq, Repr

/-- The memory of a state. -/
def stateSize : Nat := 32

/-- The memory of a state with so many transitions. -/
def sparseSize (transitions : Nat) : Nat := stateSize + 8 * transitions

/-- The memory of a state with so many ways out. -/
def branchSize (ways : Nat) : Nat := stateSize + 4 * ways

/-! ## sets -/

/-- A state that reads one byte: its ranges, each with the number of the state
behind it. -/
abbrev ByteState := List (ByteRange × Nat)

/-- The number of a state among known states, to which it is added if it is new.
Number 0 is the state in which a character is complete. -/
def numberState (known : List ByteState) (state : ByteState) : Nat × List ByteState :=
  match known.reverse.findIdx? (· == state) with
  | some n => (n + 1, known)
  | none => (known.length + 1, state :: known)

/-- The number of the state that reads one of some sequences, and the states known
then.  `depth` bounds the lengths of the sequences. -/
def addStates : (depth : Nat) → List (List ByteRange) → List ByteState → Nat × List ByteState
  | 0, _, known => (0, known)
  | depth + 1, sequences, known =>
    if sequences.all List.isEmpty then (0, known)
    else
      let groups := sequences.splitBy fun s t => s.head? == t.head?
      let (state, known) := groups.foldl (fun (state, known) group =>
        match group with
        | (range :: _) :: _ =>
          let (next, known) := addStates depth (group.map (·.drop 1)) known
          (state ++ [(range, next)], known)
        | _ => (state, known)) (([] : ByteState), known)
      numberState known state

/-- The prefixes of a sequence that are not empty. -/
def leadingParts : List ByteRange → List (List ByteRange)
  | [] => []
  | range :: rest => [range] :: (leadingParts rest).map (range :: ·)

/-- How many prefixes of ascending sequences there are that the sequence in front
does not have. -/
def countLeading : (previous : List ByteRange) → List (List ByteRange) → Nat
  | _, [] => 0
  | previous, sequence :: rest =>
    ((leadingParts sequence).filter fun part => !part.isPrefixOf previous).length +
      countLeading sequence rest

/-- The size of a set. -/
def CharSet.size (direction : Direction) (s : CharSet) : Nat :=
  if s.isAscii then stateSize + sparseSize s.ranges.length
  else match direction with
    | .forward =>
      (addStates 5 s.utf8 []).2.foldr (fun state size => sparseSize state.length + size) stateSize
    | .backward => stateSize + branchSize s.utf8.length + stateSize * countLeading [] s.utf8

/-! ## alternatives of texts -/

/-- The bytes of a text in the order in which they are read. -/
def textBytes (direction : Direction) (chars : List Char) : List UInt8 :=
  let bytes := chars.flatMap String.utf8EncodeChar
  match direction with
  | .forward => bytes
  | .backward => bytes.reverse

/-- Words in order, cut at each empty one. -/
def cutAtEmpty : List (List UInt8) → List (List (List UInt8))
  | [] => [[]]
  | [] :: rest => [] :: cutAtEmpty rest
  | word :: rest => match cutAtEmpty rest with
    | run :: runs => (word :: run) :: runs
    | [] => [[word]]

/-- The size of the tree whose branches are some words, in which words share their
common beginnings as far as no word in between ends there.  `depth` bounds the
lengths of the words. -/
def treeSize : (depth : Nat) → List (List UInt8) → Nat
  | 0, _ => 0
  | depth + 1, words =>
    if words.all List.isEmpty then 0
    else
      let runs := cutAtEmpty words
      let read := runs.filter (!·.isEmpty)
      let sizes := read.map fun run =>
        let firsts := (run.filterMap List.head?).eraseDups
        let below := firsts.map fun byte =>
          treeSize depth ((run.filter (·.head? == some byte)).map (·.drop 1))
        below.foldr (· + ·) (if firsts.length = 1 then stateSize else sparseSize firsts.length)
      sizes.foldr (· + ·) (branchSize (read.length + (runs.length - 1)))

/-- The size of alternatives that are all texts. -/
def textsSize (direction : Direction) (texts : List (List Char)) : Nat :=
  let words := texts.map (textBytes direction)
  stateSize + treeSize ((words.map List.length).foldl max 0 + 1) words

/-! ## expressions -/

namespace Expr

/-- The characters of a text. -/
def text? : Expr → Option (List Char)
  | text chars => some chars
  | _ => none

mutual

/-- The size of an expression without what stands around it. -/
def size (direction : Direction) : Expr → Nat
  | empty | look _ => stateSize
  | text chars => stateSize * (textBytes direction chars).length
  | set members => members.size direction
  | capture body =>
    size direction body + (match direction with
      | .forward => 2 * stateSize
      | .backward => 0)
  | repetition least most body =>
    let unit := size direction body
    match most with
    | none =>
      if least = 0 then
        if 0 < body.leastLength.getD 0 then unit + branchSize 2
        else unit + 2 * branchSize 2 + stateSize
      else least * unit + branchSize 2
    | some most =>
      if least = 0 && most = 1 then unit + branchSize 2 + stateSize
      else if least = most then least * unit
      else (if least = 0 then stateSize else least * unit) + stateSize +
        (most - least) * (unit + branchSize 2)
  | sequence items => (sizes direction items).foldr (· + ·) 0
  | branches items => match items.mapM text? with
    | some texts => textsSize direction texts
    | none => (sizes direction items).foldr (· + ·) (branchSize items.length + stateSize)

/-- The sizes of several expressions. -/
def sizes (direction : Direction) : List Expr → List Nat
  | [] => []
  | item :: items => size direction item :: sizes direction items

end

mutual

/-- Whether a match can only begin at a place. -/
def beginsAt (place : Look) : Expr → Bool
  | look p => p = place
  | capture body => body.beginsAt place
  | repetition least _ body => 0 < least && body.beginsAt place
  | sequence items => anyBeginsAt place items
  | branches items => allBeginAt place items
  | _ => false

/-- Whether one of the expressions up to the first that reads something can only
begin at a place. -/
def anyBeginsAt (place : Look) : List Expr → Bool
  | [] => false
  | item :: items => item.beginsAt place || item.onlyEmpty && anyBeginsAt place items

/-- Whether all of the expressions can only begin at a place. -/
def allBeginAt (place : Look) : List Expr → Bool
  | [] => true
  | item :: items => item.beginsAt place && allBeginAt place items

end

mutual

/-- Whether a match can only end at a place. -/
def endsAt (place : Look) : Expr → Bool
  | look p => p = place
  | capture body => body.endsAt place
  | repetition least _ body => 0 < least && body.endsAt place
  | sequence items => anyEndsAt place items
  | branches items => allEndAt place items
  | _ => false

/-- Whether one of the expressions from the last that reads something on can only
end at a place. -/
def anyEndsAt (place : Look) : List Expr → Bool
  | [] => false
  | item :: items => anyEndsAt place items || allOnlyEmpty items && item.endsAt place

/-- Whether all of the expressions can only end at a place. -/
def allEndAt (place : Look) : List Expr → Bool
  | [] => true
  | item :: items => item.endsAt place && allEndAt place items

end

/-- Whether the automaton for a direction only has to start at one end of a text. -/
def anchored (direction : Direction) (e : Expr) : Bool :=
  match direction with
  | .forward => e.beginsAt .start
  | .backward => e.endsAt .stop

/-- The size of the whole automaton: it captures the match, ends in a state of its
own, and skips what stands in front of a match that may start anywhere. -/
def automatonSize (direction : Direction) (e : Expr) : Nat :=
  (if e.anchored direction then stateSize else branchSize 2 + stateSize + sparseSize 1) +
    size direction (capture e) + stateSize

/-- How large the automata of a pattern may be. -/
def maxSize : Nat := 10 * 1024 * 1024

/-- Whether both automata of an expression are small enough. -/
def fits (e : Expr) : Bool :=
  e.automatonSize .forward ≤ maxSize && e.automatonSize .backward ≤ maxSize

end Expr

end DeclGen.Pattern
