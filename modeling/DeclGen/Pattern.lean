import DeclGen.Pattern.Match
import DeclGen.Pattern.Meaning
import DeclGen.Pattern.Parser
import DeclGen.Pattern.Size

/-!
# DeclGen.Pattern

Patterns: regular expressions over characters, with the classes of Unicode.  A
pattern is refused if it is malformed, nested too deeply or too large.
-/

namespace DeclGen

/-- A pattern that is ready to match. -/
structure Pattern where
  expr : Pattern.Expr

namespace Pattern

/-- The pattern that a text writes. -/
def compile? (text : String) : Option Pattern := do
  let written ← Syntax.parse? text.toList
  let (expr, _) ← written.expr? .default
  if expr.fits then some ⟨expr⟩ else none

/-- Whether a pattern matches somewhere in a text. -/
def isMatch (p : Pattern) (text : String) : Bool := p.expr.occursIn text.toList

end Pattern

end DeclGen
