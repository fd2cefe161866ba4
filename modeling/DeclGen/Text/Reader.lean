/-!
# DeclGen.Text.Reader

Readers of texts: a reader takes the input from some place on and gives a value
with the rest of the input, or `none` if the input is malformed there.
-/

namespace DeclGen.Text

/-- A reader of an `α` from the front of the input. -/
abbrev Reader (α : Type) := List Char → Option (α × List Char)

/-- The input behind a word. -/
def skipWord (word s : List Char) : Option (List Char) :=
  if word.isPrefixOf s then some (s.drop word.length) else none

/-- The value of a hexadecimal digit. -/
def hexDigit? (c : Char) : Option Nat :=
  if c.isDigit then some (c.toNat - '0'.toNat)
  else if 'a' ≤ c && c ≤ 'f' then some (c.toNat - 'a'.toNat + 10)
  else if 'A' ≤ c && c ≤ 'F' then some (c.toNat - 'A'.toNat + 10)
  else none

/-- The number that digits write in a base; `none` if one of them is no
hexadecimal digit. -/
def hexValue? (base : Nat) (digits : List Char) : Option Nat :=
  digits.foldlM (fun value c => (hexDigit? c).map (value * base + ·)) 0

/-- The number that exactly so many hexadecimal digits write. -/
def readHex (count : Nat) : Reader Nat := fun s =>
  if (s.take count).length = count then
    (hexValue? 16 (s.take count)).map (·, s.drop count)
  else none

/-- The character with a code point, unless that is a surrogate or too large. -/
def scalar? (n : Nat) : Option Char := if n.isValidChar then some (Char.ofNat n) else none

end DeclGen.Text
