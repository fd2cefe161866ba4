import DeclGen.Inferer
import DeclGen.Json.Basic
import DeclGen.Settings.Basic

/-!
# DeclGen.Settings.Json

Settings as JSON values, for callers that hold such values; the command reads its
settings from TOML files.

* Settings are the fields of an object, or the items of an array in the order of
  the fields.  Missing fields have their defaults.
* A scalar is given by its native spelling, and the kind of an inferer by its
  label.
-/

namespace DeclGen

/-! ## values -/

namespace Json

/-- The truth value. -/
def bool? : Json → Option Bool
  | bool b => some b
  | _ => none

/-- The natural number below 2^64 that is written without sign, fraction and
exponent. -/
def natural? : Json → Option Nat
  | number literal =>
    if literal.toList.all Char.isDigit then
      let value := Nat.ofDigitChars 10 literal.toList 0
      if value < UInt64.size then some value else none
    else none
  | _ => none

/-- The value of a key; the last one counts if the key occurs twice. -/
def field? (key : String) : Json → Option Json
  | object fields => (fields.reverse.find? (·.1 == some key)).map (·.2)
  | _ => none

end Json

/-! ## names -/

/-- The scalar with a given native spelling, unit included. -/
def Primitive.ofSpelling? (name : String) : Option Primitive :=
  if name = "()" then some .unit else if name = "str" then none else ofIdentifier? name

/-- The kind with a given label. -/
def InfererKind.ofLabel? : String → Option InfererKind
  | "name-with-resolver" => some .nameWithResolver
  | "type-with-resolver" => some .typeWithResolver
  | "name" => some .name
  | "type" => some .type
  | _ => none

/-! ## settings -/

/-- A style: its name, or an object with the name as its only key and `null`
behind it. -/
def OptionalStyle.ofJson? : Json → Option OptionalStyle
  | .text (some name) => ofName? name
  | .object [(some name, .null)] => ofName? name
  | _ => none

/-- The fields of an object whose values are all texts. -/
def Substitutions.ofJson? : Json → Option Substitutions
  | .object fields => do
    let entries ← fields.mapM fun field => do
      let key ← field.1
      let value ← field.2.text?
      some (key, value)
    some (ofList entries)
  | _ => none

/-- The settings of the mapping. -/
def ResolverSettings.ofJson? (json : Json) : Option ResolverSettings := do
  match ← json.record? ["strip_namespaces", "optional_style", "substitutions"] with
  | [strip, style, substitutions] =>
    some {
      stripNamespaces := ← Json.orDefault strip Json.bool? true
      optionalStyle := ← Json.orDefault style OptionalStyle.ofJson? .union
      substitutions := ← Json.orDefault substitutions Substitutions.ofJson? .empty }
  | _ => none

/-- The settings of the layout. -/
def EmitSettings.ofJson? (json : Json) : Option EmitSettings := do
  match ← json.record? ["indent", "camel_case"] with
  | [indent, camelCase] =>
    some {
      indent := ← Json.orDefault indent Json.natural? 4
      camelCase := ← Json.orDefault camelCase Json.bool? false }
  | _ => none

/-- All settings. -/
def Settings.ofJson? (json : Json) : Option Settings := do
  match ← json.record? ["resolver", "emit"] with
  | [resolver, emit] =>
    some {
      resolver := ← Json.orDefault resolver ResolverSettings.ofJson? .default
      emit := ← Json.orDefault emit EmitSettings.ofJson? .default }
  | _ => none

end DeclGen
