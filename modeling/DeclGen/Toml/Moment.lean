import DeclGen.Text.Reader

/-!
# DeclGen.Toml.Moment

Dates and times: a date, a time, or both, and then perhaps with an offset from
universal time.  A reader gives the canonical text.
-/

namespace DeclGen.Toml

open DeclGen.Text

/-- The number that exactly so many decimal digits write, if it lies between
two bounds, and the digits themselves. -/
def readDigitsBetween (count low high : Nat) : Reader (Nat × List Char) := fun s =>
  let digits := s.take count
  let value := Nat.ofDigitChars 10 digits 0
  if digits.length = count && digits.all Char.isDigit && low ≤ value && value ≤ high then
    some ((value, digits), s.drop count)
  else none

/-- The number of days in a month. -/
def daysIn (year month : Nat) : Nat :=
  if month = 2 then
    if year % 4 = 0 ∧ (year % 100 ≠ 0 ∨ year % 400 = 0) then 29 else 28
  else if [4, 6, 9, 11].contains month then 30 else 31

/-- A date. -/
def readDate : Reader (List Char) := fun s => do
  let ((year, yearDigits), r) ← readDigitsBetween 4 0 9999 s
  let r ← skipWord ['-'] r
  let ((month, monthDigits), r) ← readDigitsBetween 2 1 12 r
  let r ← skipWord ['-'] r
  let ((_, dayDigits), r) ← readDigitsBetween 2 1 (daysIn year month) r
  some (yearDigits ++ '-' :: monthDigits ++ '-' :: dayDigits, r)

/-- The digits of a fraction of a second that count: nine at most, and no zeros
at the end. -/
def fractionText (digits : List Char) : List Char :=
  match ((digits.take 9).reverse.dropWhile (· == '0')).reverse with
  | [] => []
  | kept => '.' :: kept

/-- A time of day. -/
def readTime : Reader (List Char) := fun s => do
  let ((_, hour), r) ← readDigitsBetween 2 0 23 s
  let r ← skipWord [':'] r
  let ((_, minute), r) ← readDigitsBetween 2 0 59 r
  let r ← skipWord [':'] r
  let ((_, second), r) ← readDigitsBetween 2 0 60 r
  let text := hour ++ ':' :: minute ++ ':' :: second
  match r with
  | '.' :: f =>
    let digits := f.takeWhile Char.isDigit
    if digits.isEmpty then some (text, r)
    else some (text ++ fractionText digits, f.dropWhile Char.isDigit)
  | _ => some (text, r)

/-- An offset from universal time, which may be missing. -/
def readOffset : Reader (List Char)
  | [] => some ([], [])
  | c :: r =>
    if c = 'Z' || c = 'z' then some (['Z'], r)
    else if c = '+' || c = '-' then do
      let ((hours, hour), r) ← readDigitsBetween 2 0 23 r
      let r ← skipWord [':'] r
      let ((minutes, minute), r) ← readDigitsBetween 2 0 59 r
      let sign := if hours = 0 && minutes = 0 then '+' else c
      some (sign :: hour ++ ':' :: minute, r)
    else some ([], c :: r)

/-- Whether a time is joined to a date by a character. -/
def joinsTime (c : Char) : Bool := c == 'T' || c == 't' || c == ' '

/-- Whether the input starts with as many digits as a year or an hour has and a
mark behind them. -/
def startsWithDigits (count : Nat) (mark : Char) (s : List Char) : Bool :=
  (s.take count).length == count && (s.take count).all Char.isDigit &&
    (s.drop count).head? == some mark

/-- A date with the time that follows it, if one does. -/
def readDateTime : Reader (List Char) := fun s => do
  let (date, r) ← readDate s
  match r with
  | c :: t =>
    if joinsTime c && startsWithDigits 2 ':' t then
      let (time, r) ← readTime t
      let (offset, r) ← readOffset r
      some (date ++ 'T' :: time ++ offset, r)
    else some (date, r)
  | [] => some (date, [])

/-- Whether a date or a time comes next. -/
def startsMoment (s : List Char) : Bool :=
  startsWithDigits 4 '-' s || startsWithDigits 2 ':' s

/-- A date or a time, if one comes next. -/
def readMoment : Reader String := fun s =>
  (if startsWithDigits 4 '-' s then readDateTime s else readTime s).map
    fun (written, r) => (String.ofList written, r)

end DeclGen.Toml
