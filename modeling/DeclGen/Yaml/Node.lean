/-!
# DeclGen.Yaml.Node

The nodes of a YAML document.
-/

namespace DeclGen.Yaml

/-- A node.  An alias stands for the node with an anchor, to which a `κ` refers. -/
inductive Node (κ : Type) where
  | aliasTo (target : κ)
  | scalar (anchor tag : Option (List Char)) (plain : Bool) (text : String)
  | sequence (anchor : Option (List Char)) (items : List (Node κ))
  | mapping (anchor : Option (List Char)) (entries : List (Node κ × Node κ))
  deriving Inhabited

namespace Node

variable {κ : Type}

/-- The node where nothing is written. -/
def empty : Node κ := scalar none none true ""

mutual

/-- The number of marks that a node consists of: a scalar and an alias are one, a
collection has one at either end. -/
def marks : Node κ → Nat
  | aliasTo _ | scalar .. => 1
  | sequence _ items => marksOfItems items + 2
  | mapping _ entries => marksOfEntries entries + 2

/-- The number of marks of several nodes. -/
def marksOfItems : List (Node κ) → Nat
  | [] => 0
  | item :: items => item.marks + marksOfItems items

/-- The number of marks of several entries. -/
def marksOfEntries : List (Node κ × Node κ) → Nat
  | [] => 0
  | (key, value) :: entries => key.marks + value.marks + marksOfEntries entries

end

end Node

end DeclGen.Yaml
