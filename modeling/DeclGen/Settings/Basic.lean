import DeclGen.Emission.Layout
import DeclGen.Resolver
import DeclGen.Settings.Substitutions
import DeclGen.Text.Blank

/-!
# DeclGen.Settings.Basic

The settings of a generation: how types are mapped and how declarations are
laid out.  Settings are validated before they are used.
-/

namespace DeclGen

/-- The settings of the default mapping.  A substitution is keyed by a native
path, its last segment or a scalar, and its value is TypeScript text. -/
structure ResolverSettings where
  stripNamespaces : Bool
  optionalStyle : OptionalStyle
  substitutions : Substitutions

/-- Namespaces are stripped, optional types are unions, nothing is substituted. -/
def ResolverSettings.default : ResolverSettings := ⟨true, .union, .empty⟩

instance : Inhabited ResolverSettings := ⟨.default⟩

/-- All settings. -/
structure Settings where
  resolver : ResolverSettings
  emit : EmitSettings

/-- The settings that hold where none are given. -/
def Settings.default : Settings := ⟨.default, .default⟩

instance : Inhabited Settings := ⟨.default⟩

/-! ## validation -/

/-- What is wrong with settings. -/
inductive SettingsFlaw where
  | emptySource
  | blankInSource (source : String)
  | emptyTarget (source : String)
  | indentOutOfRange (indent : Nat)
  deriving DecidableEq, Repr

/-- The wording of a flaw. -/
def SettingsFlaw.message (flaw : SettingsFlaw) : String :=
  "Invalid configuration: " ++ match flaw with
    | emptySource => "substitution with empty source"
    | blankInSource source => "substitution source `" ++ source ++ "` contains whitespace"
    | emptyTarget source => "substitution for `" ++ source ++ "` has empty target"
    | indentOutOfRange indent => "indent must be between 1 and 8, got " ++ toString indent

/-- Whether a text has nothing but blanks. -/
def isBlankText (s : String) : Bool := (Text.trim s.toList).isEmpty

/-- Checks one substitution: its source is not empty and has no blanks, and its
target is not blank. -/
def checkSubstitution (source target : String) : Except SettingsFlaw Unit :=
  if isBlankText source then .error .emptySource
  else if source.toList.any Text.isBlank then .error (.blankInSource source)
  else if isBlankText target then .error (.emptyTarget source)
  else .ok ()

/-- Checks the substitutions in the order of their keys. -/
def ResolverSettings.validate (s : ResolverSettings) : Except SettingsFlaw Unit :=
  s.substitutions.entries.forM fun entry => checkSubstitution entry.1 entry.2

/-- Checks that the indentation is between one and eight. -/
def EmitSettings.validate (s : EmitSettings) : Except SettingsFlaw Unit :=
  if s.indent = 0 ∨ 8 < s.indent then .error (.indentOutOfRange s.indent) else .ok ()

/-- Checks the substitutions first and the indentation then. -/
def Settings.validate (s : Settings) : Except SettingsFlaw Unit := do
  s.resolver.validate
  s.emit.validate

/-! ## the mapping -/

/-- The mapping with the substitutions of a list, in their order; a target is
trimmed and becomes a simple type. -/
def Resolver.substituteAll (r : Resolver) (entries : List (String × String)) : Resolver :=
  entries.foldl (fun r entry =>
    r.substitute entry.1 (.simple (String.ofList (Text.trim entry.2.toList)))) r

/-- The mapping that settings describe. -/
def Resolver.ofSettings (s : ResolverSettings) : Resolver :=
  ((Resolver.default.withStripNamespaces s.stripNamespaces).withOptionalStyle
    s.optionalStyle).substituteAll s.substitutions.entries

end DeclGen
