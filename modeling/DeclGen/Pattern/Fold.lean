import DeclGen.Pattern.CharSet
import DeclGen.Pattern.Fold.Table

/-!
# DeclGen.Pattern.Fold

Closing a set of characters under differences of case.
-/

namespace DeclGen.Pattern

/-- The groups of code points that differ in case only. -/
def foldGroups : List (List Nat) :=
  foldTable.flatMap fun row => (row.splitOn " ").map fun group =>
    (group.splitOn "=").map fun digits => CharSet.hexNumber digits.toList

namespace CharSet

/-- The set with every group of code points that it has a member of. -/
def closeUnder (groups : List (List Nat)) (s : CharSet) : CharSet :=
  let others := (groups.filter (·.any s.mem)).flatMap (·.filter fun n => !s.mem n)
  others.foldl (fun t n => t.union (.range n n)) s

/-- The set with all characters that differ from a member in case only. -/
def foldCase (s : CharSet) : CharSet := s.closeUnder foldGroups

/-- The set with the other case of its ASCII letters. -/
def foldAsciiCase (s : CharSet) : CharSet :=
  s.closeUnder ((List.range 26).map fun n => [n + 0x41, n + 0x61])

end CharSet

end DeclGen.Pattern
