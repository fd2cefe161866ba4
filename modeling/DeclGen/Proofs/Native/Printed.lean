import Mathlib.Data.List.Forall2
import DeclGen.Native.Printer
import DeclGen.Proofs.Native.Regular

/-!
# DeclGen.Proofs.Native.Printed

The tree that the text of a native type spells.

A type whose nodes are all regular has such a tree, `Tree.Prints`: it means the
type, it is nested as deep as the type is high, and wherever the type's text is
followed by something that does not lengthen its last word, the tree's tokens
are the text.  The lemmas go along the printer:

* `reads_mark_append`, `reads_word_append` and `reads_numeral_append` put a
  token in front of a text;
* `spells_textAll` and `spells_argumentText` do so for items and arguments;
* `exists_prints` builds the tree, level by level.
-/

namespace DeclGen.Native

open Text

/-! ## the printer, shape by shape -/

/-- The text of arguments: angle brackets around them, if there are any. -/
def argumentText : List Native → List Char
  | [] => []
  | t :: ts => '<' :: (textAll (t :: ts) ++ ['>'])

theorem text_primitive (kind : Primitive) :
    (primitive kind).text = kind.spelling.toList ++ argumentText [] :=
  (List.append_nil kind.spelling.toList).symm

theorem text_named (path : String) (arguments : List Native) :
    (named path arguments).text = path.toList ++ argumentText arguments := by
  cases arguments with
  | nil => exact (List.append_nil path.toList).symm
  | cons t ts => rfl

theorem text_sequence (element : Native) :
    (sequence element).text = "Vec".toList ++ argumentText [element] := rfl

theorem text_array (element : Native) (length : UInt64) :
    (array element length).text =
      '[' :: (element.text ++ ';' :: ' ' :: (Nat.toDigits 10 length.toNat ++ [']'])) := rfl

theorem text_map (key value : Native) :
    (map key value).text = "HashMap".toList ++ argumentText [key, value] := by
  have hname : "HashMap<".toList = "HashMap".toList ++ ['<'] := by decide
  show "HashMap<".toList ++ key.text ++ ", ".toList ++ value.text ++ ['>'] =
    "HashMap".toList ++ '<' :: (key.text ++ ", ".toList ++ value.text ++ ['>'])
  simp [hname]

theorem text_optional (inner : Native) :
    (optional inner).text = "Option".toList ++ argumentText [inner] := rfl

theorem text_tuple_singleton (t : Native) :
    (tuple [t]).text = '(' :: (t.text ++ [',', ')']) := rfl

theorem text_tuple {ts : List Native} (h : ∀ t, ts ≠ [t]) :
    (tuple ts).text = '(' :: (textAll ts ++ [')']) := by
  match ts, h with
  | [], _ => rfl
  | [t], h => exact absurd rfl (h t)
  | t :: u :: ts, _ => rfl

/-! ## tokens in front of a text -/

/-- A text that does not lengthen a word in front of it. -/
def Ends (r : List Char) : Prop := ∀ c ∈ r.head?, isIdentifierChar c = false

/-- A character outside identifiers ends what is in front of it. -/
theorem ends_cons {c : Char} {r : List Char} (h : isIdentifierChar c = false) : Ends (c :: r) := by
  intro d hd
  obtain rfl : c = d := by simpa using hd
  exact h

/-- A mark in front of a text is read. -/
theorem reads_mark_append (m : Mark) (r : List Char) : (Token.mark m).Reads (m.chars ++ r) r := by
  rw [reads_mark]
  cases m <;> simp [skipBlanks, isBlank]

/-- A text that starts with no blank has none to skip. -/
theorem skipBlanks_of_head {s : List Char} (h : ∀ c ∈ s.head?, isBlank c = false) :
    skipBlanks s = s := by
  cases s with
  | nil => rfl
  | cons c s => simp [skipBlanks, h c (by simp)]

/-- A word in front of a text is read. -/
theorem reads_word_append (w : Word) {r : List Char} (hr : Ends r) :
    (Token.word w).Reads (w.chars ++ r) r := by
  refine ⟨skipBlanks_of_head ?_, hr⟩
  intro c hc
  obtain rfl : w.first = c := by simpa [Word.chars] using hc
  have hfirst : isIdentifierChar w.first = true := (Bool.and_eq_true_iff.mp w.starts).1
  cases hb : isBlank w.first with
  | false => rfl
  | true => rw [isIdentifierChar_of_isBlank hb] at hfirst; contradiction

/-- A numeral in front of a text is read. -/
theorem reads_numeral_append (n : Numeral) (r : List Char) :
    (Token.numeral n).Reads (n.digits ++ r) r := by
  refine ⟨skipBlanks_of_head ?_, trivial⟩
  intro c hc
  obtain ⟨d, ds, hd⟩ := List.exists_cons_of_ne_nil n.nonempty
  obtain rfl : d = c := by simpa [hd] using hc
  have hdigit : d.isDigit = true := n.decimal d (by simp [hd])
  cases hb : isBlank d with
  | false => rfl
  | true => rw [isDigit_of_isBlank hb] at hdigit; contradiction

/-- A space in front of a token does not matter. -/
theorem spells_space {ts : List Token} {s r : List Char} (h : ts ≠ []) :
    Spells ts (' ' :: s) r ↔ Spells ts s r := by
  have hskip : skipBlanks (' ' :: s) = skipBlanks s := by simp [skipBlanks, isBlank]
  rw [← spells_skipBlanks h, hskip, spells_skipBlanks h]

/-- The numeral that a number is printed as. -/
def Numeral.ofLength (length : UInt64) : Numeral where
  digits := Nat.toDigits 10 length.toNat
  nonempty := Nat.toDigits_ne_nil
  decimal := fun _ hc => Nat.isDigit_of_mem_toDigits (by decide) (by decide) hc
  bounded := by rw [Nat.ofDigitChars_ten_toDigits]; exact length.toNat_lt

/-- A number is the value of the numeral that it is printed as. -/
@[simp] theorem Numeral.value_ofLength (length : UInt64) : (ofLength length).value = length := by
  simp [Numeral.value, Numeral.ofLength, Nat.ofDigitChars_ten_toDigits]

/-! ## paths in front of a text -/

/-- The names of a path in front of a text are read. -/
theorem spells_nameTokens (first : Word) (more : List Word) {r : List Char} (hr : Ends r) :
    Spells (nameTokens first more) ((pathText first more).toList ++ r) r := by
  rw [pathText, String.toList_ofList]
  induction more generalizing first with
  | nil =>
      rw [List.map_nil, List.intercalate_singleton]
      exact ⟨r, reads_word_append first hr, rfl⟩
  | cons w more ih =>
      rw [List.map_cons, List.intercalate_cons_cons, List.append_assoc, List.append_assoc]
      refine ⟨_, reads_word_append first ?_, _, reads_mark_append .scope _, ih w⟩
      exact ends_cons (by decide)

/-! ## trees in front of a text -/

/-- Whether a named type starts as a path can start. -/
def StartsHere : Native → Prop
  | named path _ => StartsPath path
  | _ => True

/-- A tree is what a type's text spells. -/
structure Tree.Prints (tree : Tree) (t : Native) : Prop where
  meaning : tree.meaning = t
  greedy : tree.Greedy
  nesting : ∀ n, tree.nesting ≤ n ↔ t.height ≤ n
  opens : tree.Opens ↔ ∀ u ∈ t.nodes, u.StartsHere
  spells : ∀ {r : List Char}, Ends r → Spells tree.tokens (t.text ++ r) r

/-- Trees print types one by one. -/
abbrev PrintsAll : List Tree → List Native → Prop := List.Forall₂ Tree.Prints

/-- If each type has a tree that prints it, then all of them have. -/
theorem exists_printsAll {ts : List Native} (h : ∀ t ∈ ts, ∃ tree : Tree, tree.Prints t) :
    ∃ trees, PrintsAll trees ts := by
  induction ts with
  | nil => exact ⟨[], .nil⟩
  | cons t ts ih =>
      obtain ⟨tree, htree⟩ := h t (by simp)
      obtain ⟨trees, htrees⟩ := ih fun u hu => h u (List.mem_cons_of_mem t hu)
      exact ⟨tree :: trees, .cons htree htrees⟩

/-- What holds of a tree just if it holds of the type holds of all alike. -/
theorem PrintsAll.forall_iff {trees : List Tree} {ts : List Native} {p : Tree → Prop}
    {q : Native → Prop} (h : PrintsAll trees ts) (hpq : ∀ tree t, tree.Prints t → (p tree ↔ q t)) :
    (∀ tree ∈ trees, p tree) ↔ ∀ t ∈ ts, q t := by
  induction h with
  | nil => simp
  | cons htree _ ih => simp only [List.forall_mem_cons, hpq _ _ htree, ih]

/-- The meanings of trees are the types they print. -/
theorem PrintsAll.map_meaning {trees : List Tree} {ts : List Native} (h : PrintsAll trees ts) :
    trees.map Tree.meaning = ts := by
  induction h with
  | nil => rfl
  | cons htree _ ih => rw [List.map_cons, htree.meaning, ih]

/-- A tree prints a type if it does so by itself and its children print the
types right below. -/
theorem Tree.Prints.of_children {tree : Tree} {t : Native} (h : PrintsAll tree.children t.children)
    (hmeaning : tree.meaning = t) (hgreedy : tree.GreedyHere)
    (hopens : tree.OpensHere ↔ t.StartsHere)
    (hspells : ∀ {r : List Char}, Ends r → Spells tree.tokens (t.text ++ r) r) :
    tree.Prints t where
  meaning := hmeaning
  spells := hspells
  greedy := by
    have hall := (h.forall_iff (p := Tree.Greedy) (q := fun _ => True)
      fun _ _ hprints => iff_of_true hprints.greedy trivial).mpr fun _ _ => trivial
    exact Tree.forall_nodes.mpr ⟨hgreedy, hall⟩
  nesting := by
    intro n
    cases n with
    | zero =>
        have hpos : 0 < t.height := by cases t <;> simp [height]
        have htree := tree.nesting_pos
        omega
    | succ n =>
        rw [Tree.nesting_le_succ, height_le_succ]
        exact h.forall_iff fun _ _ hprints => hprints.nesting n
  opens := by
    rw [Tree.Opens, Tree.forall_nodes, Native.forall_nodes, hopens]
    exact and_congr_right fun _ => h.forall_iff fun _ _ hprints => hprints.opens

/-! ## items and arguments -/

/-- The texts of types with commas between them are read item by item. -/
theorem spells_textAll {trees : List Tree} {ts : List Native} {us : List Token} {s r : List Char}
    (h : PrintsAll trees ts) (hs : Ends s) (hus : Spells us s r) :
    Spells (separated false (trees.map Tree.tokens) ++ us) (textAll ts ++ s) r := by
  induction h with
  | nil => exact hus
  | @cons tree t trees ts htree htrees ih =>
      cases htrees with
      | nil => simpa [separated, textAll] using ⟨s, htree.spells hs, hus⟩
      | @cons next u trees ts hnext htrees =>
          have hrest := (spells_space (by simp [separated, next.tokens_ne_nil])).mpr ih
          have hcomma : Ends (',' :: ' ' :: (textAll (u :: ts) ++ s)) := ends_cons (by decide)
          rw [List.map_cons, separated, List.append_assoc, spells_append]
          refine ⟨_, ?_, _, reads_mark_append .comma _, hrest⟩
          simpa [textAll] using htree.spells hcomma

/-- Trees as arguments. -/
def Arguments.ofTypes : List Tree → Arguments
  | [] => .nil
  | tree :: trees => .type tree (ofTypes trees)

@[simp] theorem Arguments.types_ofTypes (trees : List Tree) : (ofTypes trees).types = trees := by
  induction trees with
  | nil => rfl
  | cons tree trees ih => simp [ofTypes, types, ih]

@[simp] theorem Arguments.parts_ofTypes (trees : List Tree) :
    (ofTypes trees).parts = trees.map Tree.tokens := by
  induction trees with
  | nil => rfl
  | cons tree trees ih => simp [ofTypes, parts, ih]

/-- Arguments are read where they are printed. -/
theorem spells_argumentText {trees : List Tree} {ts : List Native} {r : List Char}
    (h : PrintsAll trees ts) :
    Spells (angled false (trees.map Tree.tokens)) (argumentText ts ++ r) r := by
  cases h with
  | nil => rfl
  | @cons tree t trees ts htree htrees =>
      have hclose : Ends ('>' :: r) := ends_cons (by decide)
      have hend : Spells [.mark .closeAngle] ('>' :: r) r :=
        ⟨r, reads_mark_append .closeAngle r, rfl⟩
      have hitems := spells_textAll (.cons htree htrees) hclose hend
      refine ⟨_, reads_mark_append .openAngle _, ?_⟩
      simpa [argumentText] using hitems

/-- Arguments do not lengthen the last name of their path. -/
theorem ends_argumentText {ts : List Native} {r : List Char} (hr : Ends r) :
    Ends (argumentText ts ++ r) := by
  cases ts with
  | nil => exact hr
  | cons t ts => exact ends_cons (by decide)

/-! ## the shapes -/

/-- A path prints the type that it means if the type's text is made of the
path and its arguments. -/
theorem Tree.prints_path (first : Word) (more : List Word) {trees : List Tree} {t : Native}
    (h : PrintsAll trees t.children)
    (hmeaning : ofName (lastName first more) (pathText first more) t.children = t)
    (hopens : (isAlphabetic first.first || first.first == '_') = true ↔ t.StartsHere)
    (htext : t.text = (pathText first more).toList ++ argumentText t.children) :
    (Tree.path false first more (.ofTypes trees) false).Prints t := by
  refine .of_children ?_ ?_ trivial hopens ?_
  · rwa [Tree.children, Arguments.types_ofTypes]
  · rw [Tree.meaning, Arguments.meanings_eq_map, Arguments.types_ofTypes, h.map_meaning, hmeaning]
  · intro r hr
    rw [htext, List.append_assoc, Tree.tokens, Arguments.parts_ofTypes]
    refine spells_append.mpr ⟨_, rfl, spells_append.mpr ⟨_, ?_, spells_argumentText h⟩⟩
    exact spells_nameTokens first more (ends_argumentText hr)

/-- A type that a single name with arguments means is printed by a tree, if
the arguments are. -/
theorem exists_prints_name (name : Word) {t : Native}
    (h : ∀ c ∈ t.children, ∃ tree : Tree, tree.Prints c)
    (hmeaning : ofName (String.ofList name.chars) (String.ofList name.chars) t.children = t)
    (hopens : (isAlphabetic name.first || name.first == '_') = true) (hstarts : t.StartsHere)
    (htext : t.text = name.chars ++ argumentText t.children) : ∃ tree : Tree, tree.Prints t := by
  obtain ⟨trees, htrees⟩ := exists_printsAll h
  have hpath : pathText name [] = String.ofList name.chars := pathText_nil name
  exact ⟨_, Tree.prints_path name [] htrees (by rwa [hpath]) (iff_of_true hopens hstarts)
    (by rw [hpath, String.toList_ofList, htext])⟩

/-- The word that a scalar other than unit is spelled with. -/
theorem exists_word_of_primitive {kind : Primitive} (h : kind ≠ .unit) :
    ∃ w : Word, w.chars = kind.spelling.toList ∧
      (isAlphabetic w.first || w.first == '_') = true := by
  cases kind
  case unit => contradiction
  all_goals exact ⟨⟨_, _, by decide, List.all_eq_true.mp (by decide)⟩, rfl, by decide⟩

/-- A scalar is found under its spelling, unless it is unit. -/
theorem ofIdentifier?_spelling {kind : Primitive} (h : kind ≠ .unit) :
    Primitive.ofIdentifier? kind.spelling = some kind := by
  cases kind
  case unit => contradiction
  all_goals rfl

/-- Every scalar is printed by a tree. -/
theorem exists_prints_primitive (kind : Primitive) :
    ∃ tree : Tree, tree.Prints (primitive kind) := by
  by_cases hunit : kind = .unit
  · subst hunit
    refine ⟨.tuple [] false, .of_children .nil rfl trivial (iff_of_true trivial trivial) ?_⟩
    intro r _
    exact ⟨_, reads_mark_append .openParen _, r, reads_mark_append .closeParen r, rfl⟩
  · obtain ⟨w, hw, hopens⟩ := exists_word_of_primitive hunit
    refine exists_prints_name w (by simp [children]) ?_ hopens trivial ?_
    · simp [children, ofName, hw, ofIdentifier?_spelling hunit]
    · rw [text_primitive, hw, children]

/-- A path starts as its first name does. -/
theorem startsPath_pathText (first : Word) (more : List Word) :
    StartsPath (pathText first more) ↔
      (isAlphabetic first.first || first.first == '_') = true := by
  obtain ⟨r, hr⟩ : ∃ r, (pathText first more).toList = first.first :: r := by
    rw [pathText, String.toList_ofList]
    cases more <;> simp [Word.chars]
  rw [StartsPath, hr]
  constructor
  · rintro ⟨c, s, hc, h⟩
    rwa [(List.cons.inj hc).1]
  · intro h
    exact ⟨first.first, r, rfl, h⟩

/-- Every named type with a path of words and no reserved name is printed by a
tree, if its arguments are. -/
theorem exists_prints_named {path : String} {arguments : List Native}
    (hregular : (named path arguments).Regular)
    (h : ∀ t ∈ arguments, ∃ tree : Tree, tree.Prints t) :
    ∃ tree : Tree, tree.Prints (named path arguments) := by
  obtain ⟨⟨first, more, rfl⟩, hfree⟩ := hregular
  obtain ⟨trees, htrees⟩ := exists_printsAll h
  rw [lastSegment_pathText] at hfree
  exact ⟨_, Tree.prints_path first more htrees (ofName_eq_named hfree)
    (startsPath_pathText first more).symm (text_named (pathText first more) arguments)⟩

/-- The names that the printer writes for sequences, maps and optionals. -/
def Word.vec : Word := ⟨'V', ['e', 'c'], by decide, List.all_eq_true.mp (by decide)⟩

@[inherit_doc Word.vec]
def Word.hashMap : Word :=
  ⟨'H', ['a', 's', 'h', 'M', 'a', 'p'], by decide, List.all_eq_true.mp (by decide)⟩

@[inherit_doc Word.vec]
def Word.option : Word :=
  ⟨'O', ['p', 't', 'i', 'o', 'n'], by decide, List.all_eq_true.mp (by decide)⟩

/-- An array is printed by a tree, if its element is. -/
theorem exists_prints_array {element : Native} (length : UInt64)
    (h : ∃ tree : Tree, tree.Prints element) :
    ∃ tree : Tree, tree.Prints (array element length) := by
  obtain ⟨tree, htree⟩ := h
  refine ⟨.array tree (.ofLength length),
    .of_children (.cons htree .nil) ?_ trivial (iff_of_true trivial trivial) ?_⟩
  · rw [Tree.meaning, htree.meaning, Numeral.value_ofLength]
  · intro r _
    have hsemicolon : Ends (';' :: ' ' :: (Nat.toDigits 10 length.toNat ++ ']' :: r)) :=
      ends_cons (by decide)
    have hlength : Spells [.numeral (.ofLength length), .mark .closeBracket]
        (Nat.toDigits 10 length.toNat ++ ']' :: r) r :=
      ⟨_, reads_numeral_append (.ofLength length) _, r, reads_mark_append .closeBracket r, rfl⟩
    have hend : Spells [.mark .semicolon, .numeral (.ofLength length), .mark .closeBracket]
        (';' :: ' ' :: (Nat.toDigits 10 length.toNat ++ ']' :: r)) r :=
      ⟨_, reads_mark_append .semicolon _, (spells_space (by simp)).mpr hlength⟩
    rw [text_array, Tree.tokens]
    refine ⟨_, reads_mark_append .openBracket _, spells_append.mpr ⟨_, ?_, hend⟩⟩
    simpa using htree.spells hsemicolon

/-- A tuple of items is printed by a tree, if the items are. -/
theorem exists_prints_tuple {ts : List Native} (hne : ts ≠ [])
    (h : ∀ t ∈ ts, ∃ tree : Tree, tree.Prints t) : ∃ tree : Tree, tree.Prints (tuple ts) := by
  -- a comma behind the last item is written for one item only
  by_cases hone : ∃ t, ts = [t]
  · obtain ⟨t, rfl⟩ := hone
    obtain ⟨tree, htree⟩ := h t (by simp)
    refine ⟨.tuple [tree] true,
      .of_children (.cons htree .nil) ?_ trivial (iff_of_true trivial trivial) ?_⟩
    · rw [Tree.meaning_tuple, List.map_singleton, htree.meaning]
      rfl
    · intro r _
      have hcomma : Ends (',' :: ')' :: r) := ends_cons (by decide)
      have hend : Spells [.mark .comma, .mark .closeParen] (',' :: ')' :: r) r :=
        ⟨_, reads_mark_append .comma _, r, reads_mark_append .closeParen r, rfl⟩
      have htokens : separated true (Tree.tokensAll [tree]) ++ [.mark .closeParen] =
          tree.tokens ++ [.mark .comma, .mark .closeParen] := by
        simp [separated, Tree.tokensAll]
      rw [text_tuple_singleton, Tree.tokens, htokens]
      refine ⟨_, reads_mark_append .openParen _, spells_append.mpr ⟨_, ?_, hend⟩⟩
      simpa using htree.spells hcomma
  · obtain ⟨trees, htrees⟩ := exists_printsAll h
    refine ⟨.tuple trees false,
      .of_children htrees ?_ trivial (iff_of_true trivial trivial) ?_⟩
    · rw [Tree.meaning_tuple, htrees.map_meaning]
      rcases ts with _ | ⟨t, _ | ⟨u, ts⟩⟩
      · contradiction
      · exact absurd ⟨t, rfl⟩ hone
      · rfl
    · intro r _
      have hclose : Ends (')' :: r) := ends_cons (by decide)
      have hend : Spells [.mark .closeParen] (')' :: r) r :=
        ⟨r, reads_mark_append .closeParen r, rfl⟩
      rw [text_tuple (fun t ht => hone ⟨t, ht⟩), Tree.tokens, Tree.tokensAll_eq_map]
      refine ⟨_, reads_mark_append .openParen _, ?_⟩
      simpa using spells_textAll htrees hclose hend

/-- **Every regular type has a tree that its text spells.** -/
theorem exists_prints {n : Nat} {t : Native} (h : t.RegularWithin n) :
    ∃ tree : Tree, tree.Prints t := by
  induction n generalizing t with
  | zero =>
      have hpos : 0 < t.height := by cases t <;> simp [height]
      exact absurd h.2 (Nat.not_le.mpr hpos)
  | succ n ih =>
      obtain ⟨hregular, hbelow⟩ := regularWithin_succ.mp h
      have hchildren : ∀ c ∈ t.children, ∃ tree : Tree, tree.Prints c :=
        fun c hc => ih (hbelow c hc)
      cases t with
      | primitive kind => exact exists_prints_primitive kind
      | named path arguments => exact exists_prints_named hregular hchildren
      | sequence element =>
          exact exists_prints_name .vec hchildren rfl (by decide) trivial
            (text_sequence element)
      | array element length =>
          exact exists_prints_array length (hchildren element (by simp [children]))
      | map key value =>
          exact exists_prints_name .hashMap hchildren rfl (by decide) trivial
            (text_map key value)
      | optional inner =>
          exact exists_prints_name .option hchildren rfl (by decide) trivial
            (text_optional inner)
      | tuple items => exact exists_prints_tuple hregular hchildren

end DeclGen.Native
