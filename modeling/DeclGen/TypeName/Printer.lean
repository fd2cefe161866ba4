import DeclGen.TypeName.Basic

/-!
# DeclGen.TypeName.Printer

The TypeScript text of a type name.  The element of an array is parenthesised
if it is a union of several variants or a dictionary.
-/

namespace DeclGen.TypeName

/-- Whether a type is parenthesised as the element of an array. -/
def isLoose : TypeName → Bool
  | union (_ :: _ :: _) => true
  | dictionary _ _ => true
  | _ => false

/-- The text of an array element. -/
def parenthesise (loose : Bool) (text : List Char) : List Char :=
  if loose then '(' :: (text ++ [')']) else text

mutual

/-- The characters of a type name's text. -/
def text : TypeName → List Char
  | named name [] => name.toList
  | named name (t :: ts) => name.toList ++ '<' :: (textAll ", ".toList (t :: ts) ++ ['>'])
  | array element => parenthesise element.isLoose element.text ++ ['[', ']']
  | tuple items => '[' :: (textAll ", ".toList items ++ [']'])
  | dictionary key value =>
    "\x7b [key: ".toList ++ key.text ++ "]: ".toList ++ value.text ++ " \x7d".toList
  | union variants => textAll " | ".toList variants

/-- The texts of several types with a separator between each two. -/
def textAll (sep : List Char) : List TypeName → List Char
  | [] => []
  | [t] => t.text
  | t :: u :: rest => t.text ++ sep ++ textAll sep (u :: rest)

end

instance : ToString TypeName := ⟨fun t => String.ofList t.text⟩

end DeclGen.TypeName
