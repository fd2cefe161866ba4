/-!
# DeclGen.Toml.Basic

TOML values.  The value of a float is not kept, and a date or time is kept as
its canonical text.
-/

namespace DeclGen

/-- A TOML value. -/
inductive Toml where
  | text (value : String)
  | integer (value : Int)
  | float
  | bool (value : Bool)
  | moment (canonical : String)
  | array (items : List Toml)
  | table (fields : List (String × Toml))
  deriving Inhabited

namespace Toml

/-! ## views -/

/-- The text. -/
def text? : Toml → Option String
  | text s => some s
  | _ => none

/-- The truth value. -/
def bool? : Toml → Option Bool
  | bool b => some b
  | _ => none

/-- The integer, unless it is negative. -/
def natural? : Toml → Option Nat
  | integer (.ofNat n) => some n
  | _ => none

/-- The key under which the canonical text of a date or time stands when it is
read as a table. -/
def momentKey : String := "$__toml_private_datetime"

/-- The fields of a table.  A date or time is a table of one field. -/
def fields? : Toml → Option (List (String × Toml))
  | table fields => some fields
  | moment canonical => some [(momentKey, text canonical)]
  | _ => none

/-- The values of a record's fields, in the order of their names; a field may be
missing.  A record is a table or an array that starts with the first fields;
what else there is is ignored. -/
def record? (names : List String) : Toml → Option (List (Option Toml))
  | array items => some (names.zipIdx.map fun name => items[name.2]?)
  | toml => toml.fields?.map fun fields => names.map fun name => fields.lookup name

/-- A field that is read if it is there and has a default if it is not. -/
def orDefault {α : Type} (value : Option Toml) (read? : Toml → Option α) (default : α) :
    Option α :=
  match value with
  | some toml => read? toml
  | none => some default

end Toml

end DeclGen
