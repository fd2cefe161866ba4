import DeclGen.Text.Uppercase.Table

/-!
# DeclGen.Text.Uppercase

The full upper-case mapping of a single character, whose image may have up to
three characters (`ß` becomes `SS`).  It depends on no language or context.
-/

namespace DeclGen.Text

/-- Whether a code point belongs to a run. -/
def UppercaseRun.holds (run : UppercaseRun) (n : Nat) : Bool :=
  run.first ≤ n && n ≤ run.last && (n - run.first) % run.step == 0

/-- The full upper-case form of a character; a character without one is kept. -/
def uppercase (c : Char) : List Char :=
  if c.toNat < 0x80 then [c.toUpper]
  else match uppercaseSequences.lookup c.toNat with
    | some image => image.map Char.ofNat
    | none => match uppercaseRuns.find? (·.holds c.toNat) with
      | some run => [Char.ofNat (c.toNat + run.distance).toNat]
      | none => [c]

end DeclGen.Text
