/-!
# DeclGen.Pattern.CharSet

Sets of characters, as the ascending list of the code points at which membership
changes: `[0x30, 0x3A]` is the set of the ASCII digits.  Every Boolean operation
is one merge of two such lists.
-/

namespace DeclGen.Pattern

/-- A set of characters, given by its bounds: the first code point in the set,
the first one behind it that is not, and so on. -/
structure CharSet where
  bounds : List Nat
  deriving DecidableEq, Inhabited

namespace CharSet

/-! ## membership -/

/-- Whether a code point is a member, if membership changes at these bounds. -/
def memBounds (n : Nat) : List Nat → Bool
  | [] => false
  | bound :: rest => if n < bound then false else !memBounds n rest

/-- Whether a code point is a member. -/
def mem (s : CharSet) (n : Nat) : Bool := memBounds n s.bounds

/-! ## sets from ranges -/

/-- The empty set. -/
def empty : CharSet := ⟨[]⟩

/-- The code points of a closed range. -/
def range (first last : Nat) : CharSet := ⟨[first, last + 1]⟩

/-- The set of one character. -/
def singleton (c : Char) : CharSet := range c.toNat c.toNat

/-- The set of all characters; surrogates are not characters. -/
def all : CharSet := ⟨[0, 0xD800, 0xE000, 0x110000]⟩

/-- The closed ranges between successive bounds. -/
def rangesOf : List Nat → List (Nat × Nat)
  | first :: stop :: rest => (first, stop - 1) :: rangesOf rest
  | _ => []

/-- The members as closed ranges in ascending order, none of which touch. -/
def ranges (s : CharSet) : List (Nat × Nat) := rangesOf s.bounds

/-- Whether the set has no members. -/
def isEmpty (s : CharSet) : Bool := s.bounds.isEmpty

/-- The only member of a set. -/
def single? (s : CharSet) : Option Char :=
  match s.ranges with
  | [(first, last)] => if first = last then some (Char.ofNat first) else none
  | _ => none

/-- Whether all members are ASCII. -/
def isAscii (s : CharSet) : Bool := s.bounds.all (· ≤ 0x80)

/-! ## Boolean operations -/

/-- One more bound in front, if membership changes there. -/
def addBound (bound : Nat) (before after : Bool) (rest : List Nat) : List Nat :=
  if before = after then rest else bound :: rest

/-- The bounds of a combination of two sets, from some code point on.  `p` and `q`
tell whether the code point in front is a member of either set. -/
def combineBounds (op : Bool → Bool → Bool) (p q : Bool) : List Nat → List Nat → List Nat
  | [], [] => []
  | [], b :: bs => addBound b (op p q) (op p (!q)) (combineBounds op p (!q) [] bs)
  | a :: as, [] => addBound a (op p q) (op (!p) q) (combineBounds op (!p) q as [])
  | a :: as, b :: bs =>
    if a < b then addBound a (op p q) (op (!p) q) (combineBounds op (!p) q as (b :: bs))
    else if b < a then addBound b (op p q) (op p (!q)) (combineBounds op p (!q) (a :: as) bs)
    else addBound a (op p q) (op (!p) (!q)) (combineBounds op (!p) (!q) as bs)
termination_by as bs => as.length + bs.length

/-- The set whose members are decided by an operation on the memberships in two
sets.  What is in neither set must be no member. -/
def combine (op : Bool → Bool → Bool) (s t : CharSet) : CharSet :=
  ⟨combineBounds op false false s.bounds t.bounds⟩

/-- The members of either set. -/
def union (s t : CharSet) : CharSet := combine (· || ·) s t

/-- The members of both sets. -/
def inter (s t : CharSet) : CharSet := combine (· && ·) s t

/-- The members of the first set only. -/
def diff (s t : CharSet) : CharSet := combine (fun p q => p && !q) s t

/-- The members of exactly one of two sets. -/
def symmDiff (s t : CharSet) : CharSet := combine (· != ·) s t

/-- The characters that are no members. -/
def complement (s : CharSet) : CharSet := all.diff s

/-- The union of several sets. -/
def unions (sets : List CharSet) : CharSet := sets.foldl union empty

/-! ## sets written as text -/

/-- The number that upper-case hexadecimal digits write. -/
def hexNumber (digits : List Char) : Nat :=
  digits.foldl (fun n c =>
    n * 16 + if c.isDigit then c.toNat - '0'.toNat else c.toNat - 'A'.toNat + 10) 0

/-- The set written as words like `41-5A` and `5F`, which are ranges and single
code points in ascending order. -/
def ofText (rows : List String) : CharSet :=
  ⟨rows.flatMap fun row => (row.splitOn " ").flatMap fun word =>
    match word.splitOn "-" with
    | [first, last] => [hexNumber first.toList, hexNumber last.toList + 1]
    | _ => [hexNumber word.toList, hexNumber word.toList + 1]⟩

end CharSet

end DeclGen.Pattern
