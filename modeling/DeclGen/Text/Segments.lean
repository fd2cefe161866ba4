/-!
# DeclGen.Text.Segments

Texts made of segments with separators between them: the segments, the last of
them, and the replacement of a separator by another.
-/

namespace DeclGen.Text

/-- What follows the last occurrence of a separator; `none` if it does not
occur.  Occurrences may overlap, and the rightmost one counts. -/
def afterLast? (sep : List Char) : List Char → Option (List Char)
  | [] => none
  | c :: r => match afterLast? sep r with
    | some tail => some tail
    | none => if sep.isPrefixOf (c :: r) then some ((c :: r).drop sep.length) else none

/-- The last segment of a text, which is the whole text if the separator does
not occur. -/
def lastSegment (sep s : List Char) : List Char := (afterLast? sep s).getD s

/-- Replacement with `skip` characters of an occurrence still to be dropped. -/
def replaceFrom (pattern new : List Char) : (skip : Nat) → List Char → List Char
  | _, [] => []
  | skip + 1, _ :: r => replaceFrom pattern new skip r
  | 0, c :: r =>
    if pattern.isPrefixOf (c :: r) then new ++ replaceFrom pattern new (pattern.length - 1) r
    else c :: replaceFrom pattern new 0 r

/-- Every occurrence of a pattern replaced, in one pass from left to right:
occurrences do not overlap and the new text is not searched again. -/
def replaceAll (pattern new s : List Char) : List Char := replaceFrom pattern new 0 s

/-- The segments between separating characters, of which empty ones are left out. -/
def segments (isSeparator : Char → Bool) : List Char → List (List Char)
  | [] => []
  | c :: r =>
    if isSeparator c then segments isSeparator r
    else match r with
      | [] => [[c]]
      | d :: _ =>
        if isSeparator d then [c] :: segments isSeparator r
        else match segments isSeparator r with
          | segment :: rest => (c :: segment) :: rest
          | [] => [[c]]

end DeclGen.Text
