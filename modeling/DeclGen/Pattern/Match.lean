import DeclGen.Pattern.Expr
import DeclGen.Pattern.Property

/-!
# DeclGen.Pattern.Match

Matching: an expression takes places in a text to the places that its matches
reach from them.  A place is the number of characters in front of it.
-/

namespace DeclGen.Pattern

/-! ## places -/

/-- The character in front of a place. -/
def before? (t : Array Char) (place : Nat) : Option Char :=
  match place with
  | 0 => none
  | n + 1 => t[n]?

/-- Whether a character belongs to a word. -/
def isWordChar (unicode : Bool) (c : Char) : Bool :=
  if unicode then wordChars.mem c.toNat else c.isAlphanum || c == '_'

/-- Whether a condition holds at a place of a text. -/
def Look.holds (look : Look) (t : Array Char) (place : Nat) : Bool :=
  let before := before? t place
  let behind := t[place]?
  let wordBefore (unicode : Bool) : Bool := before.any (isWordChar unicode)
  let wordBehind (unicode : Bool) : Bool := behind.any (isWordChar unicode)
  match look with
  | start => place = 0
  | stop => place = t.size
  | lineStart => before.all (· == '\n')
  | lineEnd => behind.all (· == '\n')
  | lineStartCr => before.all fun c => c == '\n' || c == '\r' && behind != some '\n'
  | lineEndCr => behind.all fun c => c == '\r' || c == '\n' && before != some '\r'
  | word unicode => wordBefore unicode != wordBehind unicode
  | notWord unicode => wordBefore unicode == wordBehind unicode
  | wordStart unicode => !wordBefore unicode && wordBehind unicode
  | wordEnd unicode => wordBefore unicode && !wordBehind unicode
  | wordStartHalf unicode => !wordBefore unicode
  | wordEndHalf unicode => !wordBehind unicode

/-- The places behind characters of one kind. -/
def advance (t : Array Char) (p : Char → Bool) (places : List Nat) : List Nat :=
  places.filterMap fun place => if t[place]?.any p then some (place + 1) else none

/-- The places of either list, without those that both have twice. -/
def merge (places others : List Nat) : List Nat :=
  places ++ others.filter (!places.contains ·)

/-! ## repetition -/

/-- The places reached in exactly so many rounds; a round that changes nothing is
the last one. -/
def exactly (round : List Nat → List Nat) : (rounds : Nat) → List Nat → List Nat
  | 0, places => places
  | rounds + 1, places =>
    let next := round places
    if next = places then places else exactly round rounds next

/-- The places reached in at most so many rounds, where `places` are reached and
`latest` are those of them that the last round has brought. -/
def upTo (round : List Nat → List Nat) : (rounds : Nat) → (places latest : List Nat) → List Nat
  | 0, places, _ => places
  | rounds + 1, places, latest =>
    let new := (round latest).filter (!places.contains ·)
    if new.isEmpty then places else upTo round rounds (places ++ new) new

/-- The places reached in a number of rounds within bounds.  In a text of `length`
characters some of more than `length` rounds stay where they are, so that more
than `length + 1` reach nothing new. -/
def between (length : Nat) (round : List Nat → List Nat) (least : Nat) (most : Option Nat)
    (places : List Nat) : List Nat :=
  let first := exactly round (min least (length + 1)) places
  let rounds := match most with
    | some most => min (most - least) (length + 1)
    | none => length + 1
  upTo round rounds first first

/-! ## expressions -/

namespace Expr

mutual

/-- The places that an expression reaches from some places of a text. -/
def reach (t : Array Char) : Expr → List Nat → List Nat
  | empty, places => places
  | look l, places => places.filter (l.holds t)
  | text chars, places => chars.foldl (fun places c => advance t (· == c) places) places
  | set members, places => advance t (fun c => members.mem c.toNat) places
  | capture body, places => reach t body places
  | repetition least most body, places => between t.size (reach t body) least most places
  | sequence items, places => reachAll t items places
  | branches items, places => reachAny t items places

/-- The places that several expressions reach one behind the other. -/
def reachAll (t : Array Char) : List Expr → List Nat → List Nat
  | [], places => places
  | item :: items, places => reachAll t items (reach t item places)

/-- The places that one of several expressions reaches. -/
def reachAny (t : Array Char) : List Expr → List Nat → List Nat
  | [], _ => []
  | item :: items, places => merge (reach t item places) (reachAny t items places)

end

/-- Whether an expression matches somewhere in a text. -/
def occursIn (e : Expr) (text : List Char) : Bool :=
  !(e.reach text.toArray (List.range (text.length + 1))).isEmpty

end Expr

end DeclGen.Pattern
