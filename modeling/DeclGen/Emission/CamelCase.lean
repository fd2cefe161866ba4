import DeclGen.Text.Uppercase

/-!
# DeclGen.Emission.CamelCase

Turning `snake_case` names into `camelCase` ones.
-/

namespace DeclGen

/-- The rest of a name in camel case.  `started` tells whether the result has a
character yet, `raise` whether the next one starts a later word. -/
def camelCaseFrom : (started raise : Bool) → List Char → List Char
  | _, _, [] => []
  | started, raise, c :: r =>
    if c = '_' then camelCaseFrom started started r
    else if raise then Text.uppercase c ++ camelCaseFrom true false r
    else c :: camelCaseFrom true false r

/-- A name in camel case: underscores are dropped, and a character behind one is
put into upper case unless it is the first of all. -/
def camelCase (name : List Char) : List Char := camelCaseFrom false false name

end DeclGen
