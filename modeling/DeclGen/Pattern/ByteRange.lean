import DeclGen.Pattern.CharSet

/-!
# DeclGen.Pattern.ByteRange

The UTF-8 forms of the members of a set, as sequences of byte ranges: a sequence
stands for all characters with a byte of each range, one behind the other.
-/

namespace DeclGen.Pattern

/-- A closed range of bytes. -/
abbrev ByteRange := Nat × Nat

/-- The sequences for the numbers from `lo` to `hi`, which are written with a
leading digit and so many digits of six bits behind it.  `mark` is added to the
leading digit and `0x80` to the others. -/
def byteRanges (mark : Nat) : (digits : Nat) → (lo hi : Nat) → List (List ByteRange)
  | 0, lo, hi => [[(mark + lo, mark + hi)]]
  | digits + 1, lo, hi =>
    let unit := Nat.pow 64 (digits + 1)
    let a := lo / unit
    let b := hi / unit
    let led (first last lo hi : Nat) : List (List ByteRange) :=
      (byteRanges 0x80 digits lo hi).map ((mark + first, mark + last) :: ·)
    if a = b then led a a (lo % unit) (hi % unit)
    else
      let whole := if lo % unit = 0 then a else a + 1
      let stop := if hi % unit = unit - 1 then b + 1 else b
      (if whole = a then [] else led a a (lo % unit) (unit - 1)) ++
        (if whole < stop then led whole (stop - 1) 0 (unit - 1) else []) ++
        (if stop = b then led b b 0 (hi % unit) else [])

/-- The numbers of bytes in UTF-8, with the code points that have them: the first,
the last, the mark of the leading byte and the number of bytes behind it. -/
def utf8Forms : List (Nat × Nat × Nat × Nat) :=
  [(0, 0x7F, 0, 0), (0x80, 0x7FF, 0xC0, 1), (0x800, 0xFFFF, 0xE0, 2),
   (0x10000, 0x10FFFF, 0xF0, 3)]

/-- The sequences for the code points of a range. -/
def utf8Ranges (first last : Nat) : List (List ByteRange) :=
  utf8Forms.flatMap fun (lo, hi, mark, digits) =>
    if max first lo ≤ min last hi then byteRanges mark digits (max first lo) (min last hi) else []

/-- The sequences for the members of a set, in ascending order. -/
def CharSet.utf8 (s : CharSet) : List (List ByteRange) :=
  s.ranges.flatMap fun range => utf8Ranges range.1 range.2

end DeclGen.Pattern
