import DeclGen.Settings.Basic
import DeclGen.Toml.Parser

/-!
# DeclGen.Settings.Toml

Settings written as a TOML document.  Missing fields have their defaults.
-/

namespace DeclGen

/-- Whether nothing stands behind a style's name: an empty array or table. -/
def Toml.isVoid : Toml → Bool
  | .array [] => true
  | .table [] => true
  | _ => false

/-- A style: its name, or a table with the name as its only key and nothing
behind it. -/
def OptionalStyle.ofToml? : Toml → Option OptionalStyle
  | .text name => ofName? name
  | .table [(name, value)] => if value.isVoid then ofName? name else none
  | _ => none

/-- The fields of a table whose values are all texts. -/
def Substitutions.ofToml? (toml : Toml) : Option Substitutions := do
  let fields ← toml.fields?
  let entries ← fields.mapM fun field => field.2.text?.map (field.1, ·)
  some (ofList entries)

/-- The settings of the mapping. -/
def ResolverSettings.ofToml? (toml : Toml) : Option ResolverSettings := do
  match ← toml.record? ["strip_namespaces", "optional_style", "substitutions"] with
  | [strip, style, substitutions] =>
    some {
      stripNamespaces := ← Toml.orDefault strip Toml.bool? true
      optionalStyle := ← Toml.orDefault style OptionalStyle.ofToml? .union
      substitutions := ← Toml.orDefault substitutions Substitutions.ofToml? .empty }
  | _ => none

/-- The settings of the layout. -/
def EmitSettings.ofToml? (toml : Toml) : Option EmitSettings := do
  match ← toml.record? ["indent", "camel_case"] with
  | [indent, camelCase] =>
    some {
      indent := ← Toml.orDefault indent Toml.natural? 4
      camelCase := ← Toml.orDefault camelCase Toml.bool? false }
  | _ => none

/-- All settings. -/
def Settings.ofToml? (toml : Toml) : Option Settings := do
  match ← toml.record? ["resolver", "emit"] with
  | [resolver, emit] =>
    some {
      resolver := ← Toml.orDefault resolver ResolverSettings.ofToml? .default
      emit := ← Toml.orDefault emit EmitSettings.ofToml? .default }
  | _ => none

/-- Why a settings document is refused: it is not a TOML document of settings,
or its settings have a flaw. -/
inductive SettingsError where
  | syntaxOrShape
  | flaw (flaw : SettingsFlaw)
  deriving DecidableEq, Repr

/-- The validated settings of a TOML document. -/
def Settings.parse (document : String) : Except SettingsError Settings :=
  match (Toml.parse? document).bind Settings.ofToml? with
  | none => .error .syntaxOrShape
  | some settings => match settings.validate with
    | .error flaw => .error (.flaw flaw)
    | .ok () => .ok settings

end DeclGen
