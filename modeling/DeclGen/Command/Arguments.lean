import DeclGen.Path

/-!
# DeclGen.Command.Arguments

The arguments of the command that generates declarations: the path of a model,
and options, each with a path behind it.

1. The arguments are read from left to right, and the first mistake counts.
2. What follows an option is its value, whatever it looks like.
3. The last value of an option counts, and exactly one model is given.
-/

namespace DeclGen.Command

/-- The options. -/
inductive PathOption where
  | config
  | out
  deriving DecidableEq, Repr

namespace PathOption

/-- The long form of an option. -/
def flag : PathOption → String
  | config => "--config"
  | out => "--out"

/-- The option with a given long or short form. -/
def ofFlag? (text : String) : Option PathOption :=
  if text = "--config" ∨ text = "-c" then some config
  else if text = "--out" ∨ text = "-o" then some out
  else none

end PathOption

/-- Why arguments are refused. -/
inductive ArgumentError where
  | missingValue (option : PathOption)
  | unknownOption (text : String)
  | unexpected (text : String)
  | missingModel
  deriving DecidableEq, Repr

/-- The wording of an error. -/
def ArgumentError.message : ArgumentError → String
  | missingValue option => option.flag ++ " requires a path"
  | unknownOption text => "Unknown option: " ++ text
  | unexpected text => "Unexpected argument: " ++ text
  | missingModel => "Missing <model> argument"

/-- The arguments of a generation. -/
structure Arguments where
  model : Path
  config : Option Path
  out : Option Path
  deriving DecidableEq, Repr

/-- Arguments of which not all have been read yet. -/
structure Draft where
  model : Option Path
  config : Option Path
  out : Option Path
  deriving DecidableEq, Repr

namespace Draft

/-- The draft with a value for an option. -/
def set (d : Draft) (option : PathOption) (value : String) : Draft :=
  match option with
  | .config => { d with config := some ⟨value⟩ }
  | .out => { d with out := some ⟨value⟩ }

/-- The draft with an argument that is no option. -/
def place (d : Draft) (text : String) : Except ArgumentError Draft :=
  if text.toList.head? = some '-' then .error (.unknownOption text)
  else if d.model.isSome then .error (.unexpected text)
  else .ok { d with model := some ⟨text⟩ }

/-- The draft after reading arguments. -/
def read (d : Draft) : List String → Except ArgumentError Draft
  | [] => .ok d
  | arg :: rest => match PathOption.ofFlag? arg, rest with
    | some option, [] => .error (.missingValue option)
    | some option, value :: rest => (d.set option value).read rest
    | none, rest => do (← d.place arg).read rest

/-- The arguments of a draft that has a model. -/
def finish (d : Draft) : Except ArgumentError Arguments :=
  match d.model with
  | some model => .ok ⟨model, d.config, d.out⟩
  | none => .error .missingModel

end Draft

/-- Reads arguments; `config` stands for the option's value where it is not
given. -/
def Arguments.parse (config : Option Path) (args : List String) :
    Except ArgumentError Arguments := do
  (← (⟨none, config, none⟩ : Draft).read args).finish

end DeclGen.Command
