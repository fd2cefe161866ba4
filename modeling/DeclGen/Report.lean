import DeclGen.Interface

/-!
# DeclGen.Report

What a generation has emitted: the interfaces by name, and how many members,
methods and overridden elements they have.
-/

namespace DeclGen

/-- The account of a generation. -/
structure Report where
  interfaces : List String
  members : Nat
  methods : Nat
  /-- The elements whose types inferers compute. -/
  overridden : Nat
  deriving DecidableEq, Repr

variable {m : Type → Type}

namespace Report

/-- The account of some interfaces. -/
def ofInterfaces (is : List (Interface m)) : Report where
  interfaces := is.map Interface.qualifiedName
  members := (is.flatMap Interface.members).length
  methods := (is.flatMap Interface.methods).length
  overridden := (is.flatMap Interface.elements).countP fun e => !e.slot.isEmpty

/-- A line of sixty equality signs. -/
def rule : String := String.ofList (List.replicate 60 '=')

/-- The lines of a report. -/
def lines (r : Report) : List String :=
  ["",
    rule,
    "  Declaration Generation Report",
    rule,
    "",
    "  [OK] Interfaces:      " ++ toString r.interfaces.length,
    "  [OK] Members:         " ++ toString r.members,
    "  [OK] Methods:         " ++ toString r.methods,
    "  [OK] Overridden:      " ++ toString r.overridden ++ " (inline inferers)",
    ""] ++
  r.interfaces.map ("    - " ++ ·) ++
  ["", rule]

/-- The text of a report. -/
def summary (r : Report) : String := String.join (r.lines.map (· ++ "\n"))

end Report

end DeclGen
