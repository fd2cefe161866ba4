import DeclGen.Text.Reader
import DeclGen.Toml.Basic

/-!
# DeclGen.Toml.Number

TOML integers, which have 64 bits, and floats.  A float that is too large for
64-bit floating point is refused.
-/

namespace DeclGen.Toml

open DeclGen.Text

/-- The rest of a run of digits, in which an underscore may stand between two
of them. -/
def readDigitsTail (isDigit : Char → Bool) : Reader (List Char)
  | '_' :: c :: r =>
    if isDigit c then (readDigitsTail isDigit r).map fun (s, r) => (c :: s, r) else none
  | c :: r =>
    if isDigit c then (readDigitsTail isDigit r).map fun (s, r) => (c :: s, r)
    else if c = '_' then none
    else some ([], c :: r)
  | [] => some ([], [])

/-- A run of digits, at least one. -/
def readDigits (isDigit : Char → Bool) : Reader (List Char)
  | c :: r =>
    if isDigit c then (readDigitsTail isDigit r).map fun (s, r) => (c :: s, r) else none
  | [] => none

/-- Decimal digits without a leading zero. -/
def readDecimal : Reader (List Char)
  | '0' :: r => some (['0'], r)
  | s => readDigits Char.isDigit s

/-- An integer of 64 bits. -/
def integer? (value : Int) : Option Toml :=
  if Int64.minValue.toInt ≤ value ∧ value ≤ Int64.maxValue.toInt then some (integer value)
  else none

/-- An integer in another base than ten, behind the mark of its base. -/
def readInBase (base : Nat) (isDigit : Char → Bool) : Reader Toml := fun s => do
  let (digits, r) ← readDigits isDigit s
  let value ← hexValue? base digits
  let toml ← integer? value
  some (toml, r)

/-! ## floats -/

/-- The least number that is rounded to infinity: half a unit above the largest
64-bit floating point number. -/
def floatLimit : Nat := Nat.pow 2 1024 - Nat.pow 2 970

/-- Whether the number `mantissa · 10 ^ exponent` is too large for 64-bit
floating point.  A number with more than 400 digits is, one with a mantissa of
fewer digits than the negated exponent is not, and all else is compared. -/
def exceedsFloat (mantissa : Nat) (exponent : Int) : Bool :=
  let size : Int := (Nat.toDigits 10 mantissa).length + exponent
  if mantissa = 0 ∨ size ≤ 0 then false
  else if 400 < size then true
  else if 0 ≤ exponent then floatLimit ≤ mantissa * Nat.pow 10 exponent.toNat
  else floatLimit * Nat.pow 10 (-exponent).toNat ≤ mantissa

/-- The fraction of a float. -/
def readFraction : Reader (List Char)
  | '.' :: r => readDigits Char.isDigit r
  | _ => none

/-- The exponent of a float. -/
def readExponent : Reader Int
  | c :: r =>
    if c = 'e' || c = 'E' then
      let (negative, r) := match r with
        | '+' :: r => (false, r)
        | '-' :: r => (true, r)
        | r => (false, r)
      (readDigits Char.isDigit r).map fun (digits, r) =>
        let value : Int := Nat.ofDigitChars 10 digits 0
        (if negative then -value else value, r)
    else none
  | [] => none

/-- Whether a fraction or an exponent comes next. -/
def startsFloatPart : List Char → Bool
  | c :: _ => c == '.' || c == 'e' || c == 'E'
  | [] => false

/-- A decimal integer or float, behind its sign. -/
def readUnsigned (negative : Bool) : Reader Toml := fun s => do
  let (whole, r) ← readDecimal s
  if startsFloatPart r then
    let (fraction, r) ← if r.head? = some '.' then readFraction r else some ([], r)
    let (exponent, r) ← if startsFloatPart r && r.head? != some '.' then readExponent r
      else some (0, r)
    let mantissa := Nat.ofDigitChars 10 (whole ++ fraction) 0
    if !negative && exceedsFloat mantissa (exponent - fraction.length) then none
    else some (float, r)
  else
    let value : Int := Nat.ofDigitChars 10 whole 0
    let toml ← integer? (if negative then -value else value)
    some (toml, r)

/-- The words for infinity and for what is no number. -/
def readSpecial : Reader Toml := fun s =>
  match skipWord "inf".toList s with
  | some r => some (float, r)
  | none => (skipWord "nan".toList s).map (float, ·)

/-- A number that may have a sign. -/
def readSigned (negative : Bool) : Reader Toml
  | c :: r => if c.isDigit then readUnsigned negative (c :: r) else readSpecial (c :: r)
  | [] => none

/-- A number. -/
def readNumber : Reader Toml
  | '+' :: r => readSigned false r
  | '-' :: r => readSigned true r
  | '0' :: 'x' :: r => readInBase 16 (fun c => (hexDigit? c).isSome) r
  | '0' :: 'o' :: r => readInBase 8 (fun c => '0' ≤ c && c ≤ '7') r
  | '0' :: 'b' :: r => readInBase 2 (fun c => c == '0' || c == '1') r
  | s => readSigned false s

end DeclGen.Toml
