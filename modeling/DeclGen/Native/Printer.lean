import DeclGen.Native.Basic

/-!
# DeclGen.Native.Printer

The text of a native type.  A sequence is written `Vec<T>`, a map
`HashMap<K, V>`, an optional `Option<T>`; a tuple of one item keeps a comma so
that it does not read as a parenthesised type.
-/

namespace DeclGen.Native

mutual

/-- The characters of a native type's text. -/
def text : Native → List Char
  | primitive kind => kind.spelling.toList
  | named path [] => path.toList
  | named path (t :: ts) => path.toList ++ '<' :: (textAll (t :: ts) ++ ['>'])
  | sequence element => "Vec<".toList ++ element.text ++ ['>']
  | array element length =>
    '[' :: (element.text ++ ';' :: ' ' :: (Nat.toDigits 10 length.toNat ++ [']']))
  | map key value => "HashMap<".toList ++ key.text ++ ", ".toList ++ value.text ++ ['>']
  | optional inner => "Option<".toList ++ inner.text ++ ['>']
  | tuple [t] => '(' :: (t.text ++ ",)".toList)
  | tuple items => '(' :: (textAll items ++ [')'])

/-- The texts of several types, separated by commas. -/
def textAll : List Native → List Char
  | [] => []
  | [t] => t.text
  | t :: u :: rest => t.text ++ ", ".toList ++ textAll (u :: rest)

end

instance : ToString Native := ⟨fun t => String.ofList t.text⟩

end DeclGen.Native
