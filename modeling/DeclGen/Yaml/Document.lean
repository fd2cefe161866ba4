import DeclGen.Yaml.Node.Parser
import DeclGen.Yaml.Token.Lexer

/-!
# DeclGen.Yaml.Document

Documents, whose aliases refer to nodes by number, and the views through which
they are read as texts, lists and records.

1. A node with an anchor has the number of the different anchors in front of it.
   An alias refers to the number that its name had last, and the last node with
   that number counts.
2. No more aliases are followed than a hundred times the marks of the document.
-/

namespace DeclGen.Yaml

/-- A document: its node, and its nodes with anchors in their order, by number. -/
structure Document where
  root : Node Nat
  anchored : List (Nat × Node Nat)

/-! ## numbering -/

/-- The names of anchors so far, each with its latest number. -/
abbrev AnchorNumbers := List (List Char × Nat)

/-- The numbers after one more anchor. -/
def AnchorNumbers.add (numbers : AnchorNumbers) (name : List Char) : AnchorNumbers :=
  (name, numbers.length) :: numbers.filter (·.1 != name)

/-- The numbers after the anchor of a node. -/
def AnchorNumbers.addAnchor (numbers : AnchorNumbers) (anchor : Option (List Char)) :
    AnchorNumbers := anchor.elim numbers numbers.add

/-- A node with its anchor's number, if it has an anchor. -/
def numbered (numbers : AnchorNumbers) (anchor : Option (List Char)) (node : Node Nat) :
    List (Nat × Node Nat) :=
  (anchor.map fun _ => (numbers.length, node)).toList

mutual

/-- A node with its aliases numbered, the nodes with anchors in it, and the numbers
behind it. -/
def Node.number? (numbers : AnchorNumbers) :
    Node (List Char) → Option (Node Nat × List (Nat × Node Nat) × AnchorNumbers)
  | aliasTo name => do some (.aliasTo (← numbers.lookup name), [], numbers)
  | scalar anchor tag plain text =>
    let node := .scalar anchor tag plain text
    some (node, numbered numbers anchor node, numbers.addAnchor anchor)
  | sequence anchor items => do
    let (items, anchored, behind) ← Node.numberItems? (numbers.addAnchor anchor) items
    let node := .sequence anchor items
    some (node, numbered numbers anchor node ++ anchored, behind)
  | mapping anchor entries => do
    let (entries, anchored, behind) ← Node.numberEntries? (numbers.addAnchor anchor) entries
    let node := .mapping anchor entries
    some (node, numbered numbers anchor node ++ anchored, behind)

/-- Several nodes with their aliases numbered. -/
def Node.numberItems? (numbers : AnchorNumbers) :
    List (Node (List Char)) → Option (List (Node Nat) × List (Nat × Node Nat) × AnchorNumbers)
  | [] => some ([], [], numbers)
  | item :: items => do
    let (item, first, numbers) ← item.number? numbers
    let (items, others, numbers) ← Node.numberItems? numbers items
    some (item :: items, first ++ others, numbers)

/-- Several entries with their aliases numbered. -/
def Node.numberEntries? (numbers : AnchorNumbers) :
    List (Node (List Char) × Node (List Char)) →
      Option (List (Node Nat × Node Nat) × List (Nat × Node Nat) × AnchorNumbers)
  | [] => some ([], [], numbers)
  | (key, value) :: entries => do
    let (key, first, numbers) ← key.number? numbers
    let (value, second, numbers) ← value.number? numbers
    let (entries, others, numbers) ← Node.numberEntries? numbers entries
    some ((key, value) :: entries, first ++ second ++ others, numbers)

end

namespace Document

/-- The document that a text holds. -/
def parse? (text : String) : Option Document := do
  let node ← Node.ofTokens? (← tokens? text.toList)
  let (root, anchored, _) ← node.number? []
  some ⟨root, anchored⟩

/-! ## views -/

/-- Reading that counts the aliases it follows. -/
abbrev Reading (α : Type) := StateT Nat Option α

/-- How many aliases may be followed. -/
def maxFollowed (d : Document) : Nat := 100 * d.root.marks

/-- The node that a node stands for. -/
def follow (d : Document) : Node Nat → Reading (Node Nat)
  | .aliasTo number => do
    let followed ← get
    if followed < d.maxFollowed then
      set (followed + 1)
      (d.anchored.reverse.lookup number : Option (Node Nat))
    else failure
  | node => pure node

/-- The text of a scalar. -/
def text (d : Document) (node : Node Nat) : Reading String := do
  match ← d.follow node with
  | .scalar _ _ _ text => pure text
  | _ => failure

/-- The items of a sequence; nothing written is an empty one. -/
def list (d : Document) {α : Type} (item : Node Nat → Reading α) (node : Node Nat) :
    Reading (List α) := do
  match ← d.follow node with
  | .sequence _ items => items.mapM item
  | .scalar _ _ true "" => pure []
  | _ => failure

/-- Whether a scalar is null: a plain one without a tag that is empty or says so.
What is tagged as null has to say so. -/
def isNull? : Node Nat → Option Bool
  | .scalar _ tag plain text =>
    let saysNull := ["null", "Null", "NULL", "~"].contains text
    if !plain then some false
    else match tag with
      | none => some (text.isEmpty || saysNull)
      | some tag =>
        if tag = "tag:yaml.org,2002:null".toList then if saysNull then some true else none
        else some false
  | _ => some false

/-- A value that may be null. -/
def nullable (d : Document) {α : Type} (read : Node Nat → Reading α) (node : Node Nat) :
    Reading (Option α) := do
  let node ← d.follow node
  if ← isNull? node then pure none else some <$> read node

/-- The values of a record's fields, in the order of their names.  A field may be
missing, none is given twice, and other keys are ignored. -/
def record (d : Document) (names : List String) (node : Node Nat) :
    Reading (List (Option (Node Nat))) := do
  match ← d.follow node with
  | .mapping _ entries =>
    let fields ← entries.mapM fun entry => do
      let key ← d.text entry.1
      pure (key, entry.2)
    if names.all fun name => (fields.filter (·.1 == name)).length ≤ 1 then
      pure (names.map fun name => fields.lookup name)
    else failure
  | _ => failure

/-- A field that has to be there. -/
def required {α : Type} (value : Option (Node Nat)) (read : Node Nat → Reading α) : Reading α :=
  match value with
  | some node => read node
  | none => failure

/-- A field that has a default. -/
def orDefault {α : Type} (value : Option (Node Nat)) (read : Node Nat → Reading α)
    (default : α) : Reading α :=
  match value with
  | some node => read node
  | none => pure default

end Document

end DeclGen.Yaml
