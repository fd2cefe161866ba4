import DeclGen.Pattern.Expr
import DeclGen.Pattern.Fold
import DeclGen.Pattern.Syntax

/-!
# DeclGen.Pattern.Meaning

The expression that a written pattern means.

1. A change of flags holds to the end of the group it stands in, across its
   branches.
2. Case is closed under before a class is negated, and on both sides of an
   operation before it.
3. Without the classes of Unicode nothing may match that is not ASCII, apart from
   a character that is written as it is.
-/

namespace DeclGen.Pattern

/-- The flags that decide what a pattern means. -/
structure Flags where
  ignoreCase : Bool
  multiLine : Bool
  dotAll : Bool
  unicode : Bool
  carriageReturn : Bool
  deriving DecidableEq, Repr

namespace Flags

/-- Only the classes of Unicode are on. -/
def default : Flags := ⟨false, false, false, true, false⟩

/-- The flags with one of them set or cleared. -/
def set (flags : Flags) (flag : Flag) (value : Bool) : Flags :=
  match flag with
  | .ignoreCase => { flags with ignoreCase := value }
  | .multiLine => { flags with multiLine := value }
  | .dotAll => { flags with dotAll := value }
  | .unicode => { flags with unicode := value }
  | .carriageReturn => { flags with carriageReturn := value }
  | .swapGreed | .skipBlanks => flags

/-- The flags after a change. -/
def apply (flags : Flags) (change : FlagChange) : Flags :=
  change.foldl (fun flags entry => flags.set entry.1 entry.2) flags

end Flags

/-! ## classes -/

/-- A set closed under case, if case is ignored. -/
def Flags.fold (flags : Flags) (s : CharSet) : CharSet :=
  if flags.ignoreCase then if flags.unicode then s.foldCase else s.foldAsciiCase else s

/-- The characters that are not in a set; without the classes of Unicode a set
would hold bytes that are no characters then. -/
def Flags.negate? (flags : Flags) (negated : Bool) (s : CharSet) : Option CharSet :=
  if negated then if flags.unicode then some s.complement else none
  else if flags.unicode || s.isAscii then some s
  else none

/-- The set that a class with a letter of its own stands for. -/
def Flags.shorthand (flags : Flags) : Shorthand → CharSet
  | .digit => if flags.unicode then digits else .range 0x30 0x39
  | .space => if flags.unicode then spaces else .ofText ["9-D 20"]
  | .word => if flags.unicode then wordChars else .ofText ["30-39 41-5A 5F 61-7A"]

/-- The set of a property; there are none without the classes of Unicode. -/
def Flags.property? (flags : Flags) (negated : Bool) (query : PropertyQuery) : Option CharSet :=
  if flags.unicode then do flags.negate? negated (flags.fold (← query.set?))
  else none

/-- The code point of a character in a class. -/
def Flags.classMember? (flags : Flags) (l : Literal) : Option Nat :=
  if flags.unicode || l.char.toNat < 0x80 then some l.char.toNat else none

/-- The set that an operation gives. -/
def ClassOp.apply : ClassOp → CharSet → CharSet → CharSet
  | intersection => CharSet.inter
  | difference => CharSet.diff
  | symmetricDifference => CharSet.symmDiff

mutual

/-- The set of a class; case is not closed under yet. -/
def ClassSyntax.set? (flags : Flags) : ClassSyntax → Option CharSet
  | literal l => do
    let n ← flags.classMember? l
    some (.range n n)
  | range first last => do some (.range (← flags.classMember? first) (← flags.classMember? last))
  | named negated s => flags.negate? negated (flags.fold s)
  | property negated query => flags.property? negated query
  | shorthand negated kind => flags.negate? negated (flags.shorthand kind)
  | bracketed negated body => do flags.negate? negated (flags.fold (← body.set? flags))
  | union items => do some (.unions (← ClassSyntax.sets? flags items))
  | op kind left right => do
    some (kind.apply (flags.fold (← left.set? flags)) (flags.fold (← right.set? flags)))

/-- The sets of several classes. -/
def ClassSyntax.sets? (flags : Flags) : List ClassSyntax → Option (List CharSet)
  | [] => some []
  | item :: items => do some ((← item.set? flags) :: (← ClassSyntax.sets? flags items))

end

/-! ## characters, dots and assertions -/

/-- A character; in either case if case is ignored. -/
def Flags.literal? (flags : Flags) (l : Literal) : Option Expr :=
  if !flags.unicode && l.byte && 0x80 ≤ l.char.toNat then none
  else if l.char.toNat < 0x80 || flags.unicode then some (.ofSet (flags.fold (.singleton l.char)))
  else some (.text [l.char])

/-- Any character, or any character that ends no line. -/
def Flags.dot? (flags : Flags) : Option Expr :=
  if !flags.unicode then none
  else if flags.dotAll then some (.set .all)
  else if flags.carriageReturn then some (.set (CharSet.ofText ["A", "D"]).complement)
  else some (.set (CharSet.range 0xA 0xA).complement)

/-- The condition that an assertion stands for. -/
def Flags.look (flags : Flags) : Anchor → Look
  | .lineStart =>
    if flags.multiLine then if flags.carriageReturn then .lineStartCr else .lineStart
    else .start
  | .lineEnd =>
    if flags.multiLine then if flags.carriageReturn then .lineEndCr else .lineEnd
    else .stop
  | .textStart => .start
  | .textEnd => .stop
  | .word => .word flags.unicode
  | .notWord => .notWord flags.unicode
  | .wordStart => .wordStart flags.unicode
  | .wordEnd => .wordEnd flags.unicode
  | .wordStartHalf => .wordStartHalf flags.unicode
  | .wordEndHalf => .wordEndHalf flags.unicode

/-! ## patterns -/

mutual

/-- The expression of a pattern, with the flags that hold behind it. -/
def Syntax.expr? (flags : Flags) : Syntax → Option (Expr × Flags)
  | empty => some (.empty, flags)
  | setFlags change => some (.empty, flags.apply change)
  | literal l => do some (← flags.literal? l, flags)
  | dot => do some (← flags.dot?, flags)
  | anchor kind => some (.look (flags.look kind), flags)
  | property negated query => do some (.ofSet (← flags.property? negated query), flags)
  | shorthand negated kind => do
    some (.ofSet (← flags.negate? negated (flags.shorthand kind)), flags)
  | bracketed negated body => do
    some (.ofSet (← flags.negate? negated (flags.fold (← body.set? flags))), flags)
  | repetition least most body => do
    let (body, flags) ← body.expr? flags
    some (.ofRepetition least most body, flags)
  | group captures change body => do
    let (body, _) ← body.expr? (flags.apply change)
    some (if captures then .capture body else body, flags)
  | concatenation items => do
    let (items, flags) ← Syntax.exprs? flags items
    some (.ofSequence items, flags)
  | alternation items => do
    let (items, flags) ← Syntax.exprs? flags items
    some (.ofBranches items, flags)

/-- The expressions of several patterns, one behind the other. -/
def Syntax.exprs? (flags : Flags) : List Syntax → Option (List Expr × Flags)
  | [] => some ([], flags)
  | item :: items => do
    let (expr, flags) ← item.expr? flags
    let (exprs, flags) ← Syntax.exprs? flags items
    some (expr :: exprs, flags)

end

end DeclGen.Pattern
