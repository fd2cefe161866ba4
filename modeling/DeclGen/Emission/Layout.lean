import DeclGen.Emission.CamelCase
import DeclGen.Text.Segments
import DeclGen.TypeName.Printer

/-!
# DeclGen.Emission.Layout

Declarations, which are interfaces whose every element has its TypeScript type,
and their text: one line for each member and method, indented by the depth of
nesting, inside the braces of the interface and of its namespace.
-/

namespace DeclGen

/-- How declarations are laid out: the spaces for each level of nesting, and
whether the names of elements are put into camel case. -/
structure EmitSettings where
  indent : Nat
  camelCase : Bool
  deriving DecidableEq, Repr

/-- Four spaces for each level, and names as they are. -/
def EmitSettings.default : EmitSettings := ⟨4, false⟩

instance : Inhabited EmitSettings := ⟨.default⟩

/-- The name under which an element is declared. -/
def EmitSettings.displayName (settings : EmitSettings) (name : String) : List Char :=
  if settings.camelCase then DeclGen.camelCase name.toList else name.toList

/-- A name with its TypeScript type. -/
structure TypedName where
  name : String
  type : TypeName
  deriving DecidableEq

/-- A method with the types of its parameters and of what it returns. -/
structure TypedMethod where
  name : String
  parameters : List TypedName
  returns : TypeName
  deriving DecidableEq

/-- An interface with the types of all its elements. -/
structure Declaration where
  scope : List String
  name : String
  members : List TypedName
  methods : List TypedMethod
  deriving DecidableEq

/-! ## items -/

/-- The text `name: type`. -/
def TypedName.text (settings : EmitSettings) (item : TypedName) : List Char :=
  settings.displayName item.name ++ ": ".toList ++ item.type.text

/-- The text `name(parameters): type`. -/
def TypedMethod.text (settings : EmitSettings) (method : TypedMethod) : List Char :=
  settings.displayName method.name ++
    '(' :: (List.intercalate ", ".toList (method.parameters.map (TypedName.text settings)) ++
      "): ".toList ++ method.returns.text)

namespace Declaration

/-! ## lines -/

/-- A line at some depth of nesting. -/
def line (settings : EmitSettings) (depth : Nat) (content : List Char) : List Char :=
  List.replicate (settings.indent * depth) ' ' ++ content ++ ['\n']

/-- The depth at which the interface stands: a namespace takes one level. -/
def depth (d : Declaration) : Nat := if d.scope.isEmpty then 0 else 1

/-- The lines of a declaration. -/
def lines (settings : EmitSettings) (d : Declaration) : List (List Char) :=
  (if d.scope.isEmpty then []
    else [line settings 0 ("export namespace ".toList ++
      List.intercalate ['.'] (d.scope.map String.toList) ++ " \x7b".toList)]) ++
  [line settings d.depth ("export interface ".toList ++ d.name.toList ++ " \x7b".toList)] ++
  d.members.map (fun member => line settings (d.depth + 1) (member.text settings ++ [';'])) ++
  d.methods.map (fun method => line settings (d.depth + 1) (method.text settings ++ [';'])) ++
  [line settings d.depth ['\x7d']] ++
  (if d.scope.isEmpty then [] else [line settings 0 ['\x7d']])

/-- The text of a declaration. -/
def text (settings : EmitSettings) (d : Declaration) : List Char := (d.lines settings).flatten

end Declaration

end DeclGen
