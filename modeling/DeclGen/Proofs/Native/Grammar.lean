import DeclGen.Proofs.Native.Token

/-!
# DeclGen.Proofs.Native.Grammar

The grammar of types, stated without the parser:

```
T ::= & [' [word]] [mut] T
    | ( [T {, T} [,]] )
    | [ T ]
    | [ T ; numeral ]
    | [::] word {:: word} [< A {, A} [,] >]
A ::= ' word | T
```

A `Tree` is a type as it is spelled, with everything that its meaning drops.
Four functions say what there is to know of it: the tokens that spell it, the
native type that it means, how deep its types are nested, and the trees that
occur in it.  The grammar alone is ambiguous; two conditions on each node
settle it:

* `GreedyHere`: a word behind a tick is the name of the lifetime, and a word
  `mut` in the place of the keyword is the keyword;
* `OpensHere`: a path without a leading `::` starts with a letter or `_`.
-/

namespace DeclGen.Native

open Text

/-! ## trees -/

/-- The lifetime of a reference. -/
inductive Lifetime where
  | absent
  /-- A tick without a name. -/
  | unnamed
  | named (name : Word)

mutual

/-- A type as it is spelled. -/
inductive Tree where
  | reference (lifetime : Lifetime) (mutable : Bool) (inner : Tree)
  /-- Types in parentheses, with or without a comma behind the last one. -/
  | tuple (items : List Tree) (comma : Bool)
  | sequence (element : Tree)
  | array (element : Tree) (length : Numeral)
  /-- A path with its arguments; without arguments there are no brackets. -/
  | path (rooted : Bool) (first : Word) (more : List Word) (arguments : Arguments) (comma : Bool)

/-- The arguments of a path. -/
inductive Arguments where
  | nil
  | lifetime (name : Word) (rest : Arguments)
  | type (tree : Tree) (rest : Arguments)

end

/-- The types among the arguments. -/
def Arguments.types : Arguments → List Tree
  | nil => []
  | lifetime _ rest => rest.types
  | type tree rest => tree :: rest.types

/-- The trees right below a tree. -/
def Tree.children : Tree → List Tree
  | reference _ _ inner => [inner]
  | tuple items _ => items
  | sequence element => [element]
  | array element _ => [element]
  | path _ _ _ arguments _ => arguments.types

/-! ## tokens -/

/-- Parts with a comma between each two, and one behind the last if wanted. -/
def separated (comma : Bool) : List (List Token) → List Token
  | [] => []
  | part :: rest =>
    part ++ if rest.isEmpty && !comma then [] else .mark .comma :: separated comma rest

/-- Arguments in angle brackets, if there are any. -/
def angled (comma : Bool) : List (List Token) → List Token
  | [] => []
  | part :: rest => .mark .openAngle :: (separated comma (part :: rest) ++ [.mark .closeAngle])

/-- The tokens of a lifetime. -/
def Lifetime.tokens : Lifetime → List Token
  | absent => []
  | unnamed => [.mark .tick]
  | named name => [.mark .tick, .word name]

/-- The keyword of a mutable reference. -/
def keyword (mutable : Bool) : List Token := if mutable then [.word .mut] else []

/-- The leading `::` of a path. -/
def root (rooted : Bool) : List Token := if rooted then [.mark .scope] else []

/-- The names of a path. -/
def nameTokens (first : Word) (more : List Word) : List Token :=
  .word first :: more.flatMap fun name => [.mark .scope, .word name]

mutual

/-- The tokens that spell a tree. -/
def Tree.tokens : Tree → List Token
  | .reference lifetime mutable inner =>
    .mark .ampersand :: (lifetime.tokens ++ (keyword mutable ++ inner.tokens))
  | .tuple items comma =>
    .mark .openParen :: (separated comma (Tree.tokensAll items) ++ [.mark .closeParen])
  | .sequence element => .mark .openBracket :: (element.tokens ++ [.mark .closeBracket])
  | .array element length =>
    .mark .openBracket ::
      (element.tokens ++ [.mark .semicolon, .numeral length, .mark .closeBracket])
  | .path rooted first more arguments comma =>
    root rooted ++ (nameTokens first more ++ angled comma arguments.parts)

/-- The tokens of several trees, tree by tree. -/
def Tree.tokensAll : List Tree → List (List Token)
  | [] => []
  | t :: ts => t.tokens :: Tree.tokensAll ts

/-- The tokens of arguments, argument by argument. -/
def Arguments.parts : Arguments → List (List Token)
  | .nil => []
  | .lifetime name rest => [.mark .tick, .word name] :: rest.parts
  | .type tree rest => tree.tokens :: rest.parts

end

/-! ## meaning -/

/-- The text of a path. -/
def pathText (first : Word) (more : List Word) : String :=
  String.ofList (List.intercalate [':', ':'] (first.chars :: more.map Word.chars))

/-- The last name of a path. -/
def lastName (first : Word) (more : List Word) : String :=
  String.ofList (more.getLastD first).chars

/-- A single name is the text and the last name of its path. -/
theorem pathText_nil (name : Word) : pathText name [] = lastName name [] := by
  simp [pathText, lastName]

/-- The names of sequences. -/
def sequenceNames : List String := ["Vec", "VecDeque", "HashSet", "BTreeSet", "LinkedList"]

/-- The names of pointers, which mean what they point to. -/
def pointerNames : List String := ["Box", "Rc", "Arc", "Cow"]

/-- The names of maps. -/
def mapNames : List String := ["HashMap", "BTreeMap", "IndexMap"]

/-- The type that a path with arguments means, by its last name. -/
def ofName (name path : String) : List Native → Native
  | [] => match Primitive.ofIdentifier? name with
    | some kind => primitive kind
    | none => named path []
  | [t] =>
    if name ∈ sequenceNames then sequence t
    else if name = "Option" then optional t
    else if name ∈ pointerNames then t
    else named path [t]
  | [k, v] => if name ∈ mapNames then map k v else named path [k, v]
  | arguments => named path arguments

mutual

/-- The native type that a tree means. -/
def Tree.meaning : Tree → Native
  | .reference _ _ inner => inner.meaning
  | .tuple [] _ => .primitive .unit
  | .tuple [t] false => t.meaning
  | .tuple items _ => .tuple (Tree.meaningAll items)
  | .sequence element => .sequence element.meaning
  | .array element length => .array element.meaning length.value
  | .path _ first more arguments _ =>
    ofName (lastName first more) (pathText first more) arguments.meanings

/-- The native types that several trees mean. -/
def Tree.meaningAll : List Tree → List Native
  | [] => []
  | t :: ts => t.meaning :: Tree.meaningAll ts

/-- The native types that arguments mean; lifetimes vanish. -/
def Arguments.meanings : Arguments → List Native
  | .nil => []
  | .lifetime _ rest => rest.meanings
  | .type tree rest => tree.meaning :: rest.meanings

end

/-! ## nesting -/

mutual

/-- How many types are nested in each other. -/
def Tree.nesting : Tree → Nat
  | .reference _ _ inner => inner.nesting + 1
  | .tuple items _ => Tree.nestingAll items + 1
  | .sequence element => element.nesting + 1
  | .array element _ => element.nesting + 1
  | .path _ _ _ arguments _ => arguments.nesting + 1

/-- The nesting of the deepest of several trees. -/
def Tree.nestingAll : List Tree → Nat
  | [] => 0
  | t :: ts => max t.nesting (Tree.nestingAll ts)

/-- The nesting of the deepest argument. -/
def Arguments.nesting : Arguments → Nat
  | .nil => 0
  | .lifetime _ rest => rest.nesting
  | .type tree rest => max tree.nesting rest.nesting

end

/-! ## nodes -/

mutual

/-- The trees that occur in a tree, itself included. -/
def Tree.nodes : Tree → List Tree
  | .reference lifetime mutable inner => .reference lifetime mutable inner :: inner.nodes
  | .tuple items comma => .tuple items comma :: Tree.nodesAll items
  | .sequence element => .sequence element :: element.nodes
  | .array element length => .array element length :: element.nodes
  | .path rooted first more arguments comma =>
    .path rooted first more arguments comma :: arguments.nodes

/-- The trees that occur in several trees. -/
def Tree.nodesAll : List Tree → List Tree
  | [] => []
  | t :: ts => t.nodes ++ Tree.nodesAll ts

/-- The trees that occur in arguments. -/
def Arguments.nodes : Arguments → List Tree
  | .nil => []
  | .lifetime _ rest => rest.nodes
  | .type tree rest => tree.nodes ++ rest.nodes

end

/-! ## the two conditions -/

/-- Whether tokens start with a word of some kind. -/
def StartsWith (p : Word → Prop) (ts : List Token) : Prop :=
  ∃ w rest, ts = .word w :: rest ∧ p w

/-- A word behind the tick of a reference is its lifetime, and a word `mut` in
the place of the keyword is the keyword. -/
def Tree.GreedyHere : Tree → Prop
  | .reference lifetime mutable inner =>
    (lifetime = .unnamed → ¬ StartsWith (fun _ => True) (keyword mutable ++ inner.tokens)) ∧
    (mutable = false → ¬ StartsWith (fun w => w.chars = Word.mut.chars) inner.tokens)
  | _ => True

/-- A path without a leading `::` starts with a letter or `_`. -/
def Tree.OpensHere : Tree → Prop
  | .path false first _ _ _ => (isAlphabetic first.first || first.first == '_') = true
  | _ => True

/-- Every reference takes the words that it can take. -/
def Tree.Greedy (tree : Tree) : Prop := ∀ u ∈ tree.nodes, u.GreedyHere

/-- Every path starts as a path can start. -/
def Tree.Opens (tree : Tree) : Prop := ∀ u ∈ tree.nodes, u.OpensHere

/-- A text is a spelling of a tree: both conditions hold and its tokens make up
the text, with blanks between them wherever one likes. -/
structure Tree.Spelling (tree : Tree) (source : List Char) : Prop where
  greedy : tree.Greedy
  opens : tree.Opens
  spelled : ∃ r, Spells tree.tokens source r ∧ skipBlanks r = []

/-! ## lists -/

/-- The tokens of several trees are those of each. -/
theorem Tree.tokensAll_eq_map (ts : List Tree) : Tree.tokensAll ts = ts.map Tree.tokens := by
  induction ts with
  | nil => rfl
  | cons t ts ih => simp [Tree.tokensAll, ih]

/-- The meanings of several trees are those of each. -/
theorem Tree.meaningAll_eq_map (ts : List Tree) : Tree.meaningAll ts = ts.map Tree.meaning := by
  induction ts with
  | nil => rfl
  | cons t ts ih => simp [Tree.meaningAll, ih]

/-- The meanings of arguments are those of the types among them. -/
theorem Arguments.meanings_eq_map (as : Arguments) : as.meanings = as.types.map Tree.meaning := by
  induction as using Arguments.types.induct with
  | case1 => rfl
  | case2 name rest ih => simpa [Arguments.meanings, Arguments.types] using ih
  | case3 tree rest ih => simp [Arguments.meanings, Arguments.types, ih]

/-! ## children -/

/-- Several trees are nested no deeper than each of them. -/
theorem Tree.nestingAll_le {ts : List Tree} {n : Nat} :
    Tree.nestingAll ts ≤ n ↔ ∀ t ∈ ts, t.nesting ≤ n := by
  induction ts with
  | nil => simp [Tree.nestingAll]
  | cons t ts ih => rw [Tree.nestingAll, Nat.max_le, ih, List.forall_mem_cons]

/-- Arguments are nested no deeper than each type among them. -/
theorem Arguments.nesting_le {as : Arguments} {n : Nat} :
    as.nesting ≤ n ↔ ∀ t ∈ as.types, t.nesting ≤ n := by
  induction as using Arguments.types.induct with
  | case1 => simp [Arguments.nesting, Arguments.types]
  | case2 name rest ih => simpa [Arguments.nesting, Arguments.types] using ih
  | case3 tree rest ih =>
      rw [Arguments.nesting, Arguments.types, Nat.max_le, ih, List.forall_mem_cons]

/-- A tree is one level higher than what is right below it. -/
theorem Tree.nesting_le_succ {tree : Tree} {n : Nat} :
    tree.nesting ≤ n + 1 ↔ ∀ t ∈ tree.children, t.nesting ≤ n := by
  cases tree <;>
    simp [Tree.nesting, Tree.children, Tree.nestingAll_le, Arguments.nesting_le]

/-- A tree has a level of its own. -/
theorem Tree.nesting_pos (tree : Tree) : 0 < tree.nesting := by
  cases tree <;> simp [Tree.nesting]

/-- What occurs in several trees occurs in one of them. -/
theorem Tree.mem_nodesAll {ts : List Tree} {u : Tree} :
    u ∈ Tree.nodesAll ts ↔ ∃ t ∈ ts, u ∈ t.nodes := by
  induction ts with
  | nil => simp [Tree.nodesAll]
  | cons t ts ih => simp [Tree.nodesAll, ih]

/-- What occurs in arguments occurs in a type among them. -/
theorem Arguments.mem_nodes {as : Arguments} {u : Tree} :
    u ∈ as.nodes ↔ ∃ t ∈ as.types, u ∈ t.nodes := by
  induction as using Arguments.types.induct with
  | case1 => simp [Arguments.nodes, Arguments.types]
  | case2 name rest ih => simpa [Arguments.nodes, Arguments.types] using ih
  | case3 tree rest ih => simp [Arguments.nodes, Arguments.types, ih]

/-- What occurs in a tree is the tree or occurs right below it. -/
theorem Tree.mem_nodes (tree : Tree) {u : Tree} :
    u ∈ tree.nodes ↔ u = tree ∨ ∃ t ∈ tree.children, u ∈ t.nodes := by
  cases tree <;> simp [Tree.nodes, Tree.children, Tree.mem_nodesAll, Arguments.mem_nodes]

/-- A property of all nodes is one of the tree and of all nodes below it. -/
theorem Tree.forall_nodes {tree : Tree} {p : Tree → Prop} :
    (∀ u ∈ tree.nodes, p u) ↔ p tree ∧ ∀ t ∈ tree.children, ∀ u ∈ t.nodes, p u := by
  simp only [tree.mem_nodes]
  constructor
  · intro h
    exact ⟨h tree (.inl rfl), fun t ht u hu => h u (.inr ⟨t, ht, hu⟩)⟩
  · rintro ⟨hself, hbelow⟩ u (rfl | ⟨t, ht, hu⟩)
    · exact hself
    · exact hbelow t ht u hu

end DeclGen.Native
