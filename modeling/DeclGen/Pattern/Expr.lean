import DeclGen.Pattern.CharSet

/-!
# DeclGen.Pattern.Expr

Expressions: what a pattern means, with flags applied and classes worked out.
Expressions are built in a reduced form, on which their size depends:

1. sequences and alternations are flat, and adjacent characters are one text;
2. branches that are all single characters, or all sets, are one set;
3. a beginning that all branches share stands in front of them;
4. what only matches the empty text is repeated at most once.
-/

namespace DeclGen.Pattern

/-- A condition on the place between two characters. -/
inductive Look where
  | start
  | stop
  | lineStart
  | lineEnd
  | lineStartCr
  | lineEndCr
  | word (unicode : Bool)
  | notWord (unicode : Bool)
  | wordStart (unicode : Bool)
  | wordEnd (unicode : Bool)
  | wordStartHalf (unicode : Bool)
  | wordEndHalf (unicode : Bool)
  deriving DecidableEq, Repr

/-- What a pattern matches.  A set without members matches nothing. -/
inductive Expr where
  | empty
  | look (place : Look)
  | text (chars : List Char)
  | set (members : CharSet)
  | capture (body : Expr)
  | repetition (least : Nat) (most : Option Nat) (body : Expr)
  | sequence (items : List Expr)
  | branches (items : List Expr)
  deriving Inhabited

namespace Expr

/-! ## equality -/

mutual

/-- Whether two expressions are the same.  No two groups that capture are. -/
def same : Expr → Expr → Bool
  | empty, empty => true
  | look a, look b => a = b
  | text a, text b => a = b
  | set a, set b => a = b
  | repetition least most a, repetition least' most' b =>
    least = least' && most = most' && same a b
  | sequence as, sequence bs => sameAll as bs
  | branches as, branches bs => sameAll as bs
  | _, _ => false

/-- Whether two lists hold the same expressions. -/
def sameAll : List Expr → List Expr → Bool
  | [], [] => true
  | a :: as, b :: bs => same a b && sameAll as bs
  | _, _ => false

end

/-! ## lengths of what is matched -/

/-- The number of bytes of a character. -/
def byteCount (n : Nat) : Nat :=
  if n < 0x80 then 1 else if n < 0x800 then 2 else if n < 0x10000 then 3 else 4

/-- The sum of lengths, of which any may be missing. -/
def sumLengths (lengths : List (Option Nat)) : Option Nat :=
  (lengths.mapM id).map (List.foldr (· + ·) 0)

mutual

/-- The least number of bytes that is matched; `none` if nothing may match. -/
def leastLength : Expr → Option Nat
  | empty | look _ => some 0
  | text chars => some ((chars.map fun c => byteCount c.toNat).foldr (· + ·) 0)
  | set members => members.bounds.head?.map byteCount
  | capture body => body.leastLength
  | repetition least _ body => body.leastLength.map (· * least)
  | sequence items => sumLengths (leastLengths items)
  | branches items => ((leastLengths items).mapM id).bind List.min?

/-- The least numbers of bytes of several expressions. -/
def leastLengths : List Expr → List (Option Nat)
  | [] => []
  | item :: items => item.leastLength :: leastLengths items

end

mutual

/-- Whether nothing but the empty text is matched. -/
def onlyEmpty : Expr → Bool
  | empty | look _ => true
  | text chars => chars.isEmpty
  | set _ => false
  | capture body => body.onlyEmpty
  | repetition _ most body => body.onlyEmpty && most.isSome
  | sequence items => allOnlyEmpty items
  | branches items => allOnlyEmpty items

/-- Whether several expressions match nothing but the empty text. -/
def allOnlyEmpty : List Expr → Bool
  | [] => true
  | item :: items => item.onlyEmpty && allOnlyEmpty items

end

/-! ## reduced forms -/

/-- A set, or the character that is its only member. -/
def ofSet (s : CharSet) : Expr :=
  match s.single? with
  | some c => text [c]
  | none => set s

/-- A repetition with bounds. -/
def ofRepetition (least : Nat) (most : Option Nat) (body : Expr) : Expr :=
  let (least, most) :=
    if body.onlyEmpty then (min least 1, some (min (most.getD 1) 1)) else (least, most)
  if most = some 0 then empty
  else if least = 1 && most = some 1 then body
  else repetition least most body

/-- Sequences within a sequence opened up. -/
def openSequences (items : List Expr) : List Expr :=
  items.flatMap fun
    | sequence inner => inner
    | item => [item]

/-- Adjacent texts as one and empty parts left out. -/
def joinTexts : List Expr → List Expr
  | [] => []
  | empty :: items => joinTexts items
  | text chars :: items => match joinTexts items with
    | text more :: rest => text (chars ++ more) :: rest
    | rest => text chars :: rest
  | item :: items => item :: joinTexts items

/-- Several expressions in sequence. -/
def ofSequence (items : List Expr) : Expr :=
  match joinTexts (openSequences items) with
  | [] => empty
  | [item] => item
  | items => sequence items

/-- The character that an expression matches, if it is one character. -/
def char? : Expr → Option Char
  | text [c] => some c
  | _ => none

/-- The set that an expression matches, if it is one set. -/
def set? : Expr → Option CharSet
  | set members => some members
  | _ => none

/-- The parts of a sequence. -/
def sequence? : Expr → Option (List Expr)
  | sequence items => some items
  | _ => none

/-- How many parts two sequences share from the front. -/
def sharedLength : List Expr → List Expr → Nat
  | a :: as, b :: bs => if same a b then sharedLength as bs + 1 else 0
  | _, _ => 0

/-- Alternations within an alternation opened up. -/
def openBranches (items : List Expr) : List Expr :=
  items.flatMap fun
    | branches inner => inner
    | item => [item]

/-- Several expressions of which one matches, without a beginning that all of them
share. -/
def ofBranchesApart (items : List Expr) : Expr :=
  match openBranches items with
  | [item] => item
  | items => match items.mapM char?, items.mapM set? with
    | some chars, _ => ofSet (.unions (chars.map .singleton))
    | _, some sets => ofSet (.unions sets)
    | _, _ => branches items

/-- Several expressions of which one matches. -/
def ofBranches (items : List Expr) : Expr :=
  match (openBranches items).mapM sequence? with
  | some (first :: second :: others) =>
    let shared := ((second :: others).map (sharedLength first)).foldl min first.length
    if shared = 0 then ofBranchesApart items
    else
      let ends := (first :: second :: others).map fun parts => ofSequence (parts.drop shared)
      ofSequence (first.take shared ++ [ofBranchesApart ends])
  | _ => ofBranchesApart items

end Expr

end DeclGen.Pattern
