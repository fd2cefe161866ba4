import DeclGen.Pattern.Property

/-!
# DeclGen.Pattern.Syntax

The syntax of patterns: what is written, before flags are applied and classes
are worked out.  How deep a pattern is nested is limited.
-/

namespace DeclGen.Pattern

/-- The flags of a pattern that change what it matches or how it is read. -/
inductive Flag where
  /-- Letters match in either case. -/
  | ignoreCase
  /-- Line anchors match at every line. -/
  | multiLine
  /-- A dot matches line ends. -/
  | dotAll
  /-- Repetitions are lazy, which does not change what matches as a whole. -/
  | swapGreed
  /-- Classes are those of Unicode. -/
  | unicode
  /-- A carriage return ends a line too. -/
  | carriageReturn
  /-- Blanks and comments in the pattern are skipped. -/
  | skipBlanks
  deriving DecidableEq, Repr

/-- The flags that are set and cleared, in the order in which they are written. -/
abbrev FlagChange := List (Flag × Bool)

/-- An assertion as it is written. -/
inductive Anchor where
  | lineStart
  | lineEnd
  | textStart
  | textEnd
  | word
  | notWord
  | wordStart
  | wordEnd
  | wordStartHalf
  | wordEndHalf
  deriving DecidableEq, Repr

/-- A class that has a letter of its own. -/
inductive Shorthand where
  | digit
  | space
  | word
  deriving DecidableEq, Repr

/-- A character as it is written.  `byte` marks an escape of exactly two
hexadecimal digits, which stands for a byte where classes are not those of
Unicode. -/
structure Literal where
  char : Char
  byte : Bool
  deriving DecidableEq

/-- The operations on classes. -/
inductive ClassOp where
  | intersection
  | difference
  | symmetricDifference
  deriving DecidableEq, Repr

/-- What stands in brackets. -/
inductive ClassSyntax where
  | literal (l : Literal)
  | range (first last : Literal)
  | named (negated : Bool) (set : CharSet)
  | property (negated : Bool) (query : PropertyQuery)
  | shorthand (negated : Bool) (kind : Shorthand)
  | bracketed (negated : Bool) (body : ClassSyntax)
  | union (items : List ClassSyntax)
  | op (kind : ClassOp) (left right : ClassSyntax)
  deriving Inhabited

/-- A pattern as it is written. -/
inductive Syntax where
  | empty
  | setFlags (change : FlagChange)
  | literal (l : Literal)
  | dot
  | anchor (kind : Anchor)
  | property (negated : Bool) (query : PropertyQuery)
  | shorthand (negated : Bool) (kind : Shorthand)
  | bracketed (negated : Bool) (body : ClassSyntax)
  | repetition (least : Nat) (most : Option Nat) (body : Syntax)
  | group (captures : Bool) (change : FlagChange) (body : Syntax)
  | concatenation (items : List Syntax)
  | alternation (items : List Syntax)
  deriving Inhabited

/-! ## joining parts -/

/-- The union of so many items; a single one stands for itself. -/
def ClassSyntax.ofItems : List ClassSyntax → ClassSyntax
  | [item] => item
  | items => union items

/-- So many parts in sequence; a single one stands for itself. -/
def Syntax.ofSequence : List Syntax → Syntax
  | [] => empty
  | [item] => item
  | items => concatenation items

/-- So many branches; a single one stands for itself. -/
def Syntax.ofBranches : List Syntax → Syntax
  | [item] => item
  | items => alternation items

/-- Whether there is something that can be repeated. -/
def Syntax.repeatable : Syntax → Bool
  | empty | setFlags _ => false
  | _ => true

/-! ## depth -/

mutual

/-- How many levels a class has below the brackets around it. -/
def ClassSyntax.depth : ClassSyntax → Nat
  | literal _ | range .. | named .. | property .. | shorthand .. => 0
  | bracketed _ body => body.depth + 1
  | union items => if items.isEmpty then 0 else ClassSyntax.depthAll items + 1
  | op _ left right => max left.depth right.depth + 1

/-- The depth of the deepest of several items. -/
def ClassSyntax.depthAll : List ClassSyntax → Nat
  | [] => 0
  | item :: items => max item.depth (ClassSyntax.depthAll items)

end

mutual

/-- How many levels of brackets, groups, repetitions, sequences and alternations
a pattern has. -/
def Syntax.depth : Syntax → Nat
  | empty | setFlags _ | literal _ | dot | anchor _ | property .. | shorthand .. => 0
  | bracketed _ body => body.depth + 1
  | repetition _ _ body => body.depth + 1
  | group _ _ body => body.depth + 1
  | concatenation items => Syntax.depthAll items + 1
  | alternation items => Syntax.depthAll items + 1

/-- The depth of the deepest of several parts. -/
def Syntax.depthAll : List Syntax → Nat
  | [] => 0
  | item :: items => max item.depth (Syntax.depthAll items)

end

/-- How many levels a pattern may have. -/
def maxDepth : Nat := 250

end DeclGen.Pattern
