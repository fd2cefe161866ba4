import DeclGen.Pattern.CharSet
import DeclGen.Pattern.Property.AgeTable
import DeclGen.Pattern.Property.BinaryTable
import DeclGen.Pattern.Property.CategoryTable
import DeclGen.Pattern.Property.NameTable
import DeclGen.Pattern.Property.ScriptTable

/-!
# DeclGen.Pattern.Property

The sets of characters that Unicode properties name.

1. A name alone is a binary property, else a general category, else a script.
2. A name with a value is `General_Category`, `Script`, `Script_Extensions` or
   `Age` with one of its values; an age has the characters of all earlier
   versions too.
3. Names are compared loosely: case, spaces, `_`, `-` and a leading `is` do not
   count.
-/

namespace DeclGen.Pattern

/-- What is asked for: a property by its name, or a property's value. -/
inductive PropertyQuery where
  | name (name : List Char)
  | value (property value : List Char)
  deriving DecidableEq

namespace Property

/-! ## names -/

/-- The characters of a name that count, in lower case. -/
def significant (name : List Char) : List Char :=
  (name.filter fun c => c.toNat < 0x80 && c != ' ' && c != '_' && c != '-').map Char.toLower

/-- The form in which names are compared.  `isc` is a name of its own and not `c`
with a prefix. -/
def looseName : List Char → List Char
  | i :: s :: r =>
    if i.toLower = 'i' && s.toLower = 's' then
      if significant r = ['c'] then ['i', 's', 'c'] else significant r
    else significant (i :: s :: r)
  | name => significant name

/-- Whether two names are the same loosely. -/
def sameName (name : List Char) (known : String) : Bool :=
  looseName name == looseName known.toList

/-- The known name that a name stands for, among known names with their other
names. -/
def resolveName? (known : List String) (others : List (String × List String))
    (name : List Char) : Option String :=
  known.find? fun k => sameName name k || ((others.lookup k).getD []).any (sameName name)

/-! ## general categories -/

/-- The long names of the general categories and of the groups of them. -/
def categoryNames : List (String × List String) :=
  [("Lu", ["Uppercase_Letter"]), ("Ll", ["Lowercase_Letter"]), ("Lt", ["Titlecase_Letter"]),
   ("Lm", ["Modifier_Letter"]), ("Lo", ["Other_Letter"]), ("Mn", ["Nonspacing_Mark"]),
   ("Mc", ["Spacing_Mark"]), ("Me", ["Enclosing_Mark"]), ("Nd", ["Decimal_Number", "digit"]),
   ("Nl", ["Letter_Number"]), ("No", ["Other_Number"]), ("Pc", ["Connector_Punctuation"]),
   ("Pd", ["Dash_Punctuation"]), ("Ps", ["Open_Punctuation"]), ("Pe", ["Close_Punctuation"]),
   ("Pi", ["Initial_Punctuation"]), ("Pf", ["Final_Punctuation"]), ("Po", ["Other_Punctuation"]),
   ("Sm", ["Math_Symbol"]), ("Sc", ["Currency_Symbol"]), ("Sk", ["Modifier_Symbol"]),
   ("So", ["Other_Symbol"]), ("Zs", ["Space_Separator"]), ("Zl", ["Line_Separator"]),
   ("Zp", ["Paragraph_Separator"]), ("Cc", ["Control", "cntrl"]), ("Cf", ["Format"]),
   ("Co", ["Private_Use"]), ("Cn", ["Unassigned"]), ("L", ["Letter"]), ("LC", ["Cased_Letter"]),
   ("M", ["Mark", "Combining_Mark"]), ("N", ["Number"]), ("P", ["Punctuation", "punct"]),
   ("S", ["Symbol"]), ("Z", ["Separator"]), ("C", ["Other"])]

/-- The set under a name in a table. -/
def tableSet? (table : List (String × List String)) (name : String) : Option CharSet :=
  (table.lookup name).map CharSet.ofText

/-- The set of a category, or of all categories that start with a letter. -/
def categorySet? (code : String) : Option CharSet :=
  if code = "LC" then some (.unions (["Lu", "Ll", "Lt"].filterMap (tableSet? categoryTable)))
  else if code.length = 1 then
    some (.unions ((categoryTable.filter fun row => code.toList.isPrefixOf row.1.toList).map
      fun row => .ofText row.2))
  else tableSet? categoryTable code

/-- The set that a general category's name stands for. -/
def generalCategory? (name : List Char) : Option CharSet :=
  let loose := String.ofList (looseName name)
  if loose = "any" then some .all
  else if loose = "ascii" then some (.range 0 0x7F)
  else if loose = "assigned" then (categorySet? "Cn").map CharSet.complement
  else (resolveName? (categoryNames.map (·.1)) categoryNames name).bind categorySet?

/-! ## scripts, ages and binary properties -/

/-- The known script that a name stands for. -/
def scriptName? (name : List Char) : Option String :=
  resolveName? (scriptTable.map (·.1)) scriptNames name

/-- The characters of a script. -/
def script? (name : List Char) : Option CharSet :=
  (scriptName? name).bind (tableSet? scriptTable)

/-- The characters that are used in a script. -/
def scriptExtension? (name : List Char) : Option CharSet := do
  let known ← scriptName? name
  (tableSet? scriptExtensionTable known).or (tableSet? scriptTable known)

/-- Whether a name stands for a version, as in `6.0` or `V6_0`. -/
def isVersion (name : List Char) (version : String) : Bool :=
  sameName name version || looseName name == 'v' :: version.toList.filter (· != '.')

/-- The characters that a version has. -/
def age? (name : List Char) : Option CharSet :=
  if ageTable.any (isVersion name ·.1) then
    let later := (ageTable.reverse.takeWhile fun row => !isVersion name row.1).length
    some (.unions ((ageTable.take (ageTable.length - later)).map fun row => .ofText row.2))
  else none

/-- The characters with a binary property. -/
def binary? (name : List Char) : Option CharSet :=
  (resolveName? (binaryTable.map (·.1)) binaryNames name).bind (tableSet? binaryTable)

end Property

/-- The set that a property stands for, if it is known. -/
def PropertyQuery.set? : PropertyQuery → Option CharSet
  | .name n => ((Property.binary? n).or (Property.generalCategory? n)).or (Property.script? n)
  | .value property v =>
    if ["gc", "General_Category"].any (Property.sameName property) then
      Property.generalCategory? v
    else if ["sc", "Script"].any (Property.sameName property) then Property.script? v
    else if ["scx", "Script_Extensions"].any (Property.sameName property) then
      Property.scriptExtension? v
    else if Property.sameName property "Age" then Property.age? v
    else none

/-! ## the classes with letters of their own -/

/-- Decimal digits. -/
def digits : CharSet := (Property.categorySet? "Nd").getD .empty

/-- White space. -/
def spaces : CharSet := (Property.tableSet? binaryTable "White_Space").getD .empty

/-- What words are made of: letters, marks, decimal digits, connectors and the
join controls. -/
def wordChars : CharSet :=
  .unions (["Alphabetic", "Join_Control"].filterMap (Property.tableSet? binaryTable) ++
    ["M", "Nd", "Pc"].filterMap Property.categorySet?)

end DeclGen.Pattern
