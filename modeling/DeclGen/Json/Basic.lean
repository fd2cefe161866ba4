/-!
# DeclGen.Json.Basic

JSON values, and the views through which they are read as texts, lists and
records.

A text with an unpaired surrogate escape is well-formed JSON but has no
characters; it is kept as `none` and reads as no text.
-/

namespace DeclGen

/-- A JSON value.  A number is kept as it is written; the fields of an object
keep their order, and a key may occur twice. -/
inductive Json where
  | null
  | bool (value : Bool)
  | number (literal : String)
  | text (value : Option String)
  | array (items : List Json)
  | object (fields : List (Option String × Json))
  deriving Inhabited

namespace Json

/-- The text. -/
def text? : Json → Option String
  | text s => s
  | _ => none

/-- The items of an array, each read by the same function. -/
def list? {α : Type} (item? : Json → Option α) : Json → Option (List α)
  | array items => items.mapM item?
  | _ => none

/-- Whether no key is given twice among those of a record, and every key is a
text. -/
def wellKeyed (names : List String) (fields : List (Option String × Json)) : Bool :=
  fields.all (·.1.isSome) &&
    names.all fun name => (fields.filter (·.1 == some name)).length ≤ 1

/-- The values of a record's fields, in the order of their names; a field may be
missing.  A record is an object, whose other keys are ignored, or an array that
starts with the first fields. -/
def record? (names : List String) : Json → Option (List (Option Json))
  | array items =>
    if items.length ≤ names.length then
      some (items.map some ++ List.replicate (names.length - items.length) none)
    else none
  | object fields =>
    if wellKeyed names fields then
      some (names.map fun name => (fields.find? (·.1 == some name)).map (·.2))
    else none
  | _ => none

/-- A field that is read if it is there and has a default if it is not. -/
def orDefault {α : Type} (value : Option Json) (read? : Json → Option α) (default : α) :
    Option α :=
  match value with
  | some json => read? json
  | none => some default

/-- A field that may be missing or `null`. -/
def orNull {α : Type} (value : Option Json) (read? : Json → Option α) : Option (Option α) :=
  match value with
  | some null => some none
  | some json => (read? json).map some
  | none => some none

end Json

end DeclGen
