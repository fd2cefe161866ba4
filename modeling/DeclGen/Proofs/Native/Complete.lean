import DeclGen.Proofs.Native.Path

/-!
# DeclGen.Proofs.Native.Complete

What the reader of types does on the spelling of a tree, whether or not it
accepts it.

The item reader is a parameter of the readers of tuples, sequences and paths,
so what is needed of it is a property, `Decides`: on a spelling it gives the
tree's meaning and what follows if the tree fits, and fails otherwise.  The
lemmas go from the shapes to the whole:

* `readTuple_eq_ok`, `readBracketed_sequence`, `readBracketed_array` and
  `readPath_eq_ok` take a deciding item reader to each shape;
* `readType_decides` closes the circle by induction on the levels of nesting;
* `parseChars_eq_ok` reads a whole text.
-/

namespace DeclGen.Native

open Text

/-! ## what may follow a type -/

/-- A text that cannot lengthen a path in front of it. -/
def Closes (r : List Char) : Prop := token? [':', ':'] r = none ∧ token? ['<'] r = none

/-- A text closes what is in front of it unless a colon or `<` comes next. -/
theorem closes_of_cons {s r : List Char} {c : Char} (h : skipBlanks s = c :: r) (hscope : c ≠ ':')
    (hangle : c ≠ '<') : Closes s :=
  ⟨token?_eq_none h rfl hscope, token?_eq_none h rfl hangle⟩

/-- Whether a type can start with a character. -/
def startsType (c : Char) : Bool := startsIdentifier c || ['&', '(', '[', ':'].contains c

/-- What a word looks like in the text. -/
theorem first_of_reads_word {w : Word} {s r : List Char} (h : (Token.word w).Reads s r) :
    skipBlanks s = w.first :: (w.others ++ r) := by
  simpa [Token.chars, Word.chars] using h.1

/-- The first character of a type. -/
theorem Tree.first_of_spells {tree : Tree} {s r : List Char} (h : Spells tree.tokens s r) :
    ∃ c m, skipBlanks s = c :: m ∧ startsType c = true := by
  cases tree with
  | reference lifetime mutable inner =>
      obtain ⟨m, hm, -⟩ := h
      exact ⟨'&', m, reads_mark.mp hm, by decide⟩
  | tuple items comma =>
      obtain ⟨m, hm, -⟩ := h
      exact ⟨'(', m, reads_mark.mp hm, by decide⟩
  | sequence element =>
      obtain ⟨m, hm, -⟩ := h
      exact ⟨'[', m, reads_mark.mp hm, by decide⟩
  | array element length =>
      obtain ⟨m, hm, -⟩ := h
      exact ⟨'[', m, reads_mark.mp hm, by decide⟩
  | path rooted first more arguments comma =>
      cases rooted with
      | true =>
          obtain ⟨m, hm, -⟩ := h
          exact ⟨':', ':' :: m, reads_mark.mp hm, by decide⟩
      | false =>
          obtain ⟨m, hm, -⟩ := h
          exact ⟨_, _, first_of_reads_word hm, by simp [startsType, first.starts]⟩

/-- A type has a token. -/
theorem Tree.tokens_ne_nil (tree : Tree) : tree.tokens ≠ [] := by
  cases tree with
  | path rooted first more arguments comma => simp [Tree.tokens, nameTokens]
  | _ => simp [Tree.tokens]

/-- A reader decides trees: on the spelling of one it gives its meaning and the
text behind it if the tree fits, and fails otherwise. -/
def Decides (item : Reader Native) (fits : Tree → Prop) : Prop :=
  ∀ {tree : Tree} {s r : List Char} {v : Native × List Char}, Spells tree.tokens s r →
    tree.Greedy → Closes r → (item s = .ok v ↔ v = (tree.meaning, r) ∧ fits tree)

variable {item : Reader Native} {fits : Tree → Prop}

/-- A step whose result is known goes on with it. -/
theorem bind_eq_ok_of_iff {ε α β : Type} {x : Except ε α} {f : α → Except ε β} {a : α} {b : β}
    {p : Prop} (h : ∀ c, x = .ok c ↔ c = a ∧ p) : (x >>= f) = .ok b ↔ p ∧ f a = .ok b := by
  rw [bind_eq_ok]
  constructor
  · rintro ⟨c, hc, hf⟩
    obtain ⟨rfl, hp⟩ := (h c).mp hc
    exact ⟨hp, hf⟩
  · rintro ⟨hp, hf⟩
    exact ⟨a, (h a).mpr ⟨rfl, hp⟩, hf⟩

/-! ## tuples -/

/-- The items of a tuple are read where they are spelled. -/
theorem tupleItems_eq_ok (h : Decides item fits) (items : List Tree) (comma : Bool) {fuel : Nat}
    {s r : List Char} {v : (List Native × Bool) × List Char} (hfuel : items.length < fuel)
    (hs : Spells (separated comma (Tree.tokensAll items) ++ [.mark .closeParen]) s r)
    (hg : ∀ t ∈ items, t.Greedy) :
    tupleItems item fuel s = .ok v ↔
      v = ((items.map Tree.meaning, comma && !items.isEmpty), r) ∧ ∀ t ∈ items, fits t := by
  induction items generalizing fuel s v with
  | nil =>
      obtain ⟨fuel, rfl⟩ := Nat.exists_eq_succ_of_ne_zero (by omega : fuel ≠ 0)
      have hclose : token? [')'] s = some r :=
        token?_eq_some.mpr (by simpa [separated, Tree.tokensAll] using hs)
      simp [tupleItems, hclose, eq_comm]
  | cons t ts ih =>
      obtain ⟨fuel, rfl⟩ := Nat.exists_eq_succ_of_ne_zero (by omega : fuel ≠ 0)
      rw [Tree.tokensAll, separated, List.append_assoc, spells_append] at hs
      obtain ⟨m, ht, hm⟩ := hs
      obtain ⟨c, k, hc, hstart⟩ := Tree.first_of_spells ht
      have hopen : token? [')'] s = none :=
        token?_eq_none hc rfl (by rintro rfl; exact absurd hstart (by decide))
      have hitem := (spells_skipBlanks t.tokens_ne_nil).mpr ht
      rw [tupleItems, hopen]
      by_cases hlast : (Tree.tokensAll ts).isEmpty && !comma
      · rw [if_pos hlast] at hm
        have hclose : skipBlanks m = ')' :: r := by simpa using hm
        have hcloses : Closes m := closes_of_cons hclose (by decide) (by decide)
        have hcomma : token? [','] m = none := token?_eq_none hclose rfl (by decide)
        have hparen : token? [')'] m = some r := token?_eq_some.mpr hclose
        obtain ⟨rfl, rfl⟩ : ts = [] ∧ comma = false := by
          cases ts <;> simp_all [Tree.tokensAll]
        simp only [bind_eq_ok_of_iff fun _ => h hitem (hg t (by simp)) hcloses, hcomma, hparen]
        simp [eq_comm (a := v), and_comm]
      · rw [if_neg hlast, List.cons_append, spells_cons] at hm
        obtain ⟨k, hk, hrest⟩ := hm
        have hcloses : Closes m := closes_of_cons (reads_mark.mp hk) (by decide) (by decide)
        have hcomma : token? [','] m = some k := token?_eq_some.mpr (reads_mark.mp hk)
        have hflag : (ts.isEmpty || comma && !ts.isEmpty) = (comma && !(t :: ts).isEmpty) := by
          cases ts <;> simp_all [Tree.tokensAll]
        have hlen : ts.length < fuel := by simpa using hfuel
        have hts : ∀ u ∈ ts, u.Greedy := fun u hu => hg u (List.mem_cons_of_mem t hu)
        simp only [bind_eq_ok_of_iff fun _ => h hitem (hg t (by simp)) hcloses, hcomma,
          bind_eq_ok_of_iff fun _ => ih hlen hrest hts, List.isEmpty_map, hflag]
        simp only [List.map_cons, List.forall_mem_cons, Except.ok.injEq, eq_comm (a := v), and_comm,
          and_left_comm]

/-- Parts that have tokens are not more than their tokens. -/
theorem length_le_separated (comma : Bool) {parts : List (List Token)}
    (h : ∀ part ∈ parts, part ≠ []) : parts.length ≤ (separated comma parts).length := by
  induction parts with
  | nil => simp
  | cons part rest ih =>
      have hpart : 0 < part.length := List.length_pos_iff.mpr (h part (by simp))
      have hrest := ih fun p hp => h p (List.mem_cons_of_mem part hp)
      cases rest with
      | nil => simp [separated]; omega
      | cons next rest => simp [separated] at hrest ⊢; omega

/-- What parentheses mean, by the number of items and the comma. -/
theorem Tree.meaning_tuple (items : List Tree) (comma : Bool) :
    (Tree.tuple items comma).meaning =
      ofItems (items.map Tree.meaning, comma && !items.isEmpty) := by
  match items, comma with
  | [], comma => simp [Tree.meaning, ofItems]
  | [t], false => simp [Tree.meaning, ofItems]
  | [t], true => simp [Tree.meaning, ofItems, Tree.meaningAll]
  | t :: u :: rest, comma => simp [Tree.meaning, ofItems, Tree.meaningAll_eq_map]

/-- A tuple is read where it is spelled. -/
theorem readTuple_eq_ok (h : Decides item fits) {items : List Tree} {comma : Bool}
    {s r : List Char} {v : Native × List Char}
    (hs : Spells (separated comma (Tree.tokensAll items) ++ [.mark .closeParen]) s r)
    (hg : ∀ t ∈ items, t.Greedy) :
    readTuple item s = .ok v ↔
      v = ((Tree.tuple items comma).meaning, r) ∧ ∀ t ∈ items, fits t := by
  have hparts : (Tree.tokensAll items).length ≤ (separated comma (Tree.tokensAll items)).length :=
    length_le_separated comma fun part hpart => by
      rw [Tree.tokensAll_eq_map] at hpart
      obtain ⟨t, -, rfl⟩ := List.mem_map.mp hpart
      exact t.tokens_ne_nil
  have hlen := length_le_of_spells hs
  have hfuel : items.length < s.length + 1 := by
    simp only [Tree.tokensAll_eq_map, List.length_map] at hparts
    simp only [List.length_append, List.length_singleton, Tree.tokensAll_eq_map] at hlen
    omega
  rw [readTuple, bind_eq_ok_of_iff fun _ => tupleItems_eq_ok h items comma hfuel hs hg,
    Tree.meaning_tuple]
  simp only [Except.ok.injEq, eq_comm (a := v), and_comm]

/-! ## sequences and arrays -/

/-- A sequence is read where it is spelled. -/
theorem readBracketed_sequence (h : Decides item fits) {element : Tree} {s r : List Char}
    {v : Native × List Char} (hs : Spells (element.tokens ++ [.mark .closeBracket]) s r)
    (hg : element.Greedy) :
    readBracketed item s = .ok v ↔ v = (.sequence element.meaning, r) ∧ fits element := by
  obtain ⟨m, hm, hrest⟩ := spells_append.mp hs
  have hclose : skipBlanks m = ']' :: r := by simpa using hrest
  have hcloses : Closes m := closes_of_cons hclose (by decide) (by decide)
  have hbracket : token? [']'] m = some r := token?_eq_some.mpr hclose
  rw [readBracketed, bind_eq_ok_of_iff fun _ => h hm hg hcloses]
  simp only [hbracket, Except.ok.injEq, eq_comm (a := v), and_comm]

/-- An array is read where it is spelled. -/
theorem readBracketed_array (h : Decides item fits) {element : Tree} {length : Numeral}
    {s r : List Char} {v : Native × List Char}
    (hs : Spells (element.tokens ++ [.mark .semicolon, .numeral length, .mark .closeBracket]) s r)
    (hg : element.Greedy) :
    readBracketed item s = .ok v ↔
      v = (.array element.meaning length.value, r) ∧ fits element := by
  obtain ⟨m, hm, k, hk, j, hj, i, hi, rfl⟩ := spells_append.mp hs
  have hsemi : skipBlanks m = ';' :: k := reads_mark.mp hk
  have hclose : skipBlanks j = ']' :: i := reads_mark.mp hi
  have hcloses : Closes m := closes_of_cons hsemi (by decide) (by decide)
  have hbracket : token? [']'] m = none := token?_eq_none hsemi rfl (by decide)
  have hcolon : expect [';'] m = .ok k := expect_eq_ok.mpr hsemi
  have hend : expect [']'] j = .ok i := expect_eq_ok.mpr hclose
  have hdigits : ∀ c ∈ j.head?, c.isDigit = false := by
    intro c hc
    rcases head_of_skipBlanks hclose hc with hb | rfl
    · exact isDigit_of_isBlank hb
    · decide
  rw [readBracketed, bind_eq_ok_of_iff fun _ => h hm hg hcloses]
  simp only [hbracket, hcolon, ok_bind, readLength_of_reads hj hdigits, hend, Except.ok.injEq,
    eq_comm (a := v), and_comm]

/-! ## paths -/

/-- Every name of a path has a token. -/
theorem length_lt_nameTokens (first : Word) (more : List Word) :
    more.length < (nameTokens first more).length := by
  induction more with
  | nil => simp [nameTokens]
  | cons w more ih =>
      simp only [nameTokens, List.length_cons, List.flatMap_cons, List.length_append] at ih ⊢
      omega

/-- The names of a path are read up to where no `::` follows. -/
theorem pathSegments_of_spells {first : Word} {more : List Word} {fuel : Nat} {s r : List Char}
    (hfuel : more.length < fuel) (hs : Spells (nameTokens first more) s r)
    (hr : token? [':', ':'] r = none) :
    pathSegments fuel s = .ok (first.chars :: more.map Word.chars, r) := by
  induction more generalizing first fuel s with
  | nil =>
      obtain ⟨fuel, rfl⟩ := Nat.exists_eq_succ_of_ne_zero (by omega : fuel ≠ 0)
      obtain ⟨m, hm, rfl⟩ := hs
      simp [pathSegments, identifier?_of_reads hm, hr]
  | cons w more ih =>
      obtain ⟨fuel, rfl⟩ := Nat.exists_eq_succ_of_ne_zero (by omega : fuel ≠ 0)
      obtain ⟨m, hm, k, hk, hrest⟩ := hs
      have hscope : token? [':', ':'] m = some k := token?_eq_some.mpr (reads_mark.mp hk)
      have hlen : more.length < fuel := by simpa using hfuel
      simp [pathSegments, identifier?_of_reads hm, hscope, ih hlen hrest]

/-- A lifetime is read as an argument that leaves nothing. -/
theorem readArgument_lifetime {name : Word} {s r : List Char} {v : List Native × List Char}
    (hs : Spells [.mark .tick, .word name] s r) :
    readArgument item s = .ok v ↔ v = ([], r) ∧ True := by
  obtain ⟨m, hm, k, hk, rfl⟩ := hs
  have htick : skipBlanks s = '\x27' :: m := reads_mark.mp hm
  simp [readArgument, htick, identifier?_of_reads hk, eq_comm (a := v)]

/-- A type is read as an argument. -/
theorem readArgument_type (h : Decides item fits) {tree : Tree} {s r : List Char}
    {v : List Native × List Char} (hs : Spells tree.tokens s r) (hg : tree.Greedy)
    (hr : Closes r) : readArgument item s = .ok v ↔ v = ([tree.meaning], r) ∧ fits tree := by
  obtain ⟨c, m, hc, hstart⟩ := Tree.first_of_spells hs
  have hitem := (spells_skipBlanks tree.tokens_ne_nil).mpr hs
  unfold readArgument
  split
  · next k hk =>
      rw [hc, List.cons.injEq] at hk
      rw [hk.1] at hstart
      exact absurd hstart (by decide)
  · rw [bind_eq_ok_of_iff fun _ => h hitem hg hr]
    simp only [Except.ok.injEq, eq_comm (a := v), and_comm]

/-- The first character of an argument. -/
theorem Arguments.first_of_spells {as : Arguments} {comma : Bool} {ts : List Token}
    {s r : List Char} (has : as.parts ≠ []) (hs : Spells (separated comma as.parts ++ ts) s r) :
    ∃ c m, skipBlanks s = c :: m ∧ c ≠ '>' := by
  cases as with
  | nil => exact absurd rfl has
  | lifetime name rest =>
      obtain ⟨m, hm, -⟩ := hs
      exact ⟨'\x27', m, reads_mark.mp hm, by decide⟩
  | type tree rest =>
      rw [Arguments.parts, separated, List.append_assoc, spells_append] at hs
      obtain ⟨m, hm, -⟩ := hs
      obtain ⟨c, k, hc, hstart⟩ := Tree.first_of_spells hm
      exact ⟨c, k, hc, by rintro rfl; exact absurd hstart (by decide)⟩

/-- An argument has a token. -/
theorem Arguments.part_ne_nil (as : Arguments) : ∀ part ∈ as.parts, part ≠ [] := by
  induction as using Arguments.types.induct with
  | case1 => simp [Arguments.parts]
  | case2 name rest ih => simpa [Arguments.parts] using ih
  | case3 tree rest ih => simpa [Arguments.parts, tree.tokens_ne_nil] using ih

/-- One argument and those behind it: `given` is what the first one leaves if
`p` holds. -/
theorem pathArguments_succ {rest : Arguments} {comma : Bool} {fuel : Nat} {s m r : List Char}
    {given : List Native} {p : Prop} {v : List Native × List Char}
    (hhead : ∀ c, readArgument item s = .ok c ↔ c = (given, m) ∧ p)
    (hm : Spells ((if rest.parts.isEmpty && !comma then [] else
      .mark .comma :: separated comma rest.parts) ++ [.mark .closeAngle]) m r)
    (hmore : rest.parts ≠ [] → ∀ k, Spells (separated comma rest.parts ++ [.mark .closeAngle]) k r →
      ∀ c, pathArguments item fuel k = .ok c ↔ c = (rest.meanings, r) ∧ ∀ t ∈ rest.types, fits t) :
    pathArguments item (fuel + 1) s = .ok v ↔
      v = (given ++ rest.meanings, r) ∧ p ∧ ∀ t ∈ rest.types, fits t := by
  have hnil : rest.parts = [] → rest = .nil := by
    cases rest <;> simp [Arguments.parts]
  rw [pathArguments, bind_eq_ok_of_iff hhead]
  by_cases hlast : rest.parts.isEmpty && !comma
  · rw [if_pos hlast] at hm
    have hclose : token? ['>'] m = some r := token?_eq_some.mpr (by simpa using hm)
    obtain rfl := hnil (List.isEmpty_iff.mp (Bool.and_eq_true_iff.mp hlast).1)
    simp [hclose, Arguments.meanings, Arguments.types, eq_comm (a := v), and_comm]
  · rw [if_neg hlast, List.cons_append, spells_cons] at hm
    obtain ⟨k, hk, hrest⟩ := hm
    have hcomma : skipBlanks m = ',' :: k := reads_mark.mp hk
    have hopen : token? ['>'] m = none := token?_eq_none hcomma rfl (by decide)
    have hexpect : expect [','] m = .ok k := expect_eq_ok.mpr hcomma
    simp only [hopen, hexpect, ok_bind]
    by_cases hparts : rest.parts = []
    · have hclose : token? ['>'] k = some r :=
        token?_eq_some.mpr (by simpa [hparts, separated] using hrest)
      obtain rfl := hnil hparts
      simp [hclose, Arguments.meanings, Arguments.types, eq_comm (a := v), and_comm]
    · obtain ⟨c, j, hc, hne⟩ := Arguments.first_of_spells hparts hrest
      have hnone : token? ['>'] k = none := token?_eq_none hc rfl hne
      simp only [hnone, bind_eq_ok_of_iff (hmore hparts k hrest), Except.ok.injEq,
        eq_comm (a := v)]
      rw [← and_assoc, and_comm]

/-- The arguments of a path are read where they are spelled. -/
theorem pathArguments_eq_ok (h : Decides item fits) (as : Arguments) (comma : Bool) {fuel : Nat}
    {s r : List Char} {v : List Native × List Char} (has : as.parts ≠ [])
    (hfuel : as.parts.length ≤ fuel)
    (hs : Spells (separated comma as.parts ++ [.mark .closeAngle]) s r)
    (hg : ∀ t ∈ as.types, t.Greedy) :
    pathArguments item fuel s = .ok v ↔ v = (as.meanings, r) ∧ ∀ t ∈ as.types, fits t := by
  induction as using Arguments.types.induct generalizing fuel s v with
  | case1 => exact absurd rfl has
  | case2 name rest ih =>
      rw [Arguments.parts, List.length_cons] at hfuel
      obtain ⟨fuel, rfl⟩ := Nat.exists_eq_succ_of_ne_zero (by omega : fuel ≠ 0)
      rw [Arguments.parts, separated, List.append_assoc, spells_append] at hs
      obtain ⟨m, hname, hm⟩ := hs
      rw [pathArguments_succ (fun _ => readArgument_lifetime hname) hm fun hrest _ hk _ =>
        ih hrest (by omega) hk hg]
      simp [Arguments.meanings, Arguments.types]
  | case3 tree rest ih =>
      rw [Arguments.parts, List.length_cons] at hfuel
      obtain ⟨fuel, rfl⟩ := Nat.exists_eq_succ_of_ne_zero (by omega : fuel ≠ 0)
      rw [Arguments.parts, separated, List.append_assoc, spells_append] at hs
      obtain ⟨m, htree, hm⟩ := hs
      have hcloses : Closes m := by
        split at hm <;> obtain ⟨k, hk, -⟩ := hm <;>
          exact closes_of_cons (reads_mark.mp hk) (by decide) (by decide)
      rw [Arguments.types, List.forall_mem_cons] at hg
      rw [pathArguments_succ (fun _ => readArgument_type h htree hg.1 hcloses) hm
        fun hrest _ hk _ => ih hrest (by omega) hk hg.2]
      simp [Arguments.meanings, Arguments.types]

/-- What does not follow a path are its arguments, so no more names do either. -/
theorem closes_names {comma : Bool} {parts : List (List Token)} {m r : List Char}
    (hm : Spells (angled comma parts) m r) (hr : Closes r) : token? [':', ':'] m = none := by
  cases parts with
  | nil => rw [spells_nil.mp hm]; exact hr.1
  | cons part rest =>
      obtain ⟨k, hk, -⟩ := hm
      exact token?_eq_none (reads_mark.mp hk) rfl (by decide)

/-- A path is read where it is spelled. -/
theorem readPath_eq_ok (h : Decides item fits) {rooted comma : Bool} {first : Word}
    {more : List Word} {arguments : Arguments} {s r : List Char} {v : Native × List Char}
    (hs : Spells (Tree.path rooted first more arguments comma).tokens s r)
    (hg : ∀ t ∈ arguments.types, t.Greedy) (hr : Closes r) :
    readPath item s = .ok v ↔
      v = ((Tree.path rooted first more arguments comma).meaning, r) ∧
        ∀ t ∈ arguments.types, fits t := by
  rw [Tree.tokens, spells_append] at hs
  obtain ⟨m, hroot, hs⟩ := hs
  obtain ⟨k, hnames, hangled⟩ := spells_append.mp hs
  have hskip : (token? [':', ':'] s).getD s = m := by
    cases rooted with
    | true =>
        have hscope : token? [':', ':'] s = some m :=
          token?_eq_some.mpr (by simpa [root] using hroot)
        rw [hscope, Option.getD_some]
    | false =>
        obtain rfl : s = m := hroot
        obtain ⟨j, hj, -⟩ := hnames
        have hcolon : first.first ≠ ':' := fun hc =>
          colon_not_mem_chars first (hc ▸ List.mem_cons_self)
        rw [token?_eq_none (first_of_reads_word hj) rfl hcolon, Option.getD_none]
  have hfuel : more.length < m.length + 1 := by
    have hlen := length_le_of_spells hnames
    have hmore := length_lt_nameTokens first more
    omega
  have hsegments := pathSegments_of_spells hfuel hnames (closes_names hangled hr)
  rw [readPath, Tree.meaning, ← ofPath_pathText]
  simp only [hskip, hsegments, ok_bind]
  cases harguments : arguments.parts with
  | nil =>
      rw [harguments] at hangled
      obtain rfl : k = r := hangled
      obtain rfl : arguments = .nil := by
        cases arguments <;> simp_all [Arguments.parts]
      simp [hr.2, pathText, Arguments.meanings, Arguments.types, eq_comm (a := v)]
  | cons part rest =>
      rw [harguments, angled, ← harguments, spells_cons] at hangled
      obtain ⟨j, hj, hrest⟩ := hangled
      have hopen : token? ['<'] k = some j := token?_eq_some.mpr (reads_mark.mp hj)
      have hparts : arguments.parts ≠ [] := by simp [harguments]
      have hbound : arguments.parts.length ≤ j.length + 1 := by
        have hlen := length_le_of_spells hrest
        have hsep := length_le_separated comma arguments.part_ne_nil
        rw [List.length_append] at hlen
        omega
      simp only [hopen, bind_eq_ok_of_iff fun _ =>
        pathArguments_eq_ok h arguments comma hparts hbound hrest hg, Except.ok.injEq, pathText,
        eq_comm (a := v), and_comm]

/-! ## references -/

/-- A lifetime is passed over where it is spelled. -/
theorem spells_skipLifetime {lifetime : Lifetime} {ts : List Token} {s r : List Char}
    (hs : Spells (lifetime.tokens ++ ts) s r) (hts : ts ≠ [])
    (hunnamed : lifetime = .unnamed → ¬ StartsWith (fun _ => True) ts)
    (htick : ts.head? ≠ some (.mark .tick)) : Spells ts (skipLifetime s) r := by
  obtain ⟨t, us, rfl⟩ := List.exists_cons_of_ne_nil hts
  cases lifetime with
  | absent =>
      obtain ⟨m, hm, hus⟩ := hs
      unfold skipLifetime
      split
      · next hquote => exact absurd (congrArg some (eq_tick_of_reads hm hquote)) htick
      · exact (spells_skipBlanks hts).mpr ⟨m, hm, hus⟩
  | unnamed =>
      obtain ⟨m, hm, k, hk, hus⟩ := hs
      have hquote : skipBlanks s = '\x27' :: m := reads_mark.mp hm
      have hnone : identifier? m = none := by
        cases hid : identifier? m with
        | none => rfl
        | some p =>
            obtain ⟨w, rfl, -⟩ := word_of_identifier? hk hid
            exact absurd ⟨w, us, rfl, trivial⟩ (hunnamed rfl)
      simp only [skipLifetime, hquote, hnone]
      exact (spells_skipBlanks hts).mpr ⟨k, hk, hus⟩
  | named name =>
      obtain ⟨m, hm, k, hk, hus⟩ := hs
      have hquote : skipBlanks s = '\x27' :: m := reads_mark.mp hm
      simp only [skipLifetime, hquote, identifier?_of_reads hk]
      exact hus

/-- The keyword `mut` is passed over where it is spelled. -/
theorem spells_skipMut {mutable : Bool} {ts : List Token} {s r : List Char}
    (hs : Spells (keyword mutable ++ ts) s r) (hts : ts ≠ [])
    (hmut : mutable = false → ¬ StartsWith (fun w => w.chars = Word.mut.chars) ts) :
    Spells ts (skipMut s) r := by
  cases mutable with
  | true =>
      obtain ⟨m, hm, hrest⟩ := hs
      have hchars : Word.mut.chars = "mut".toList := by decide
      simpa [skipMut, identifier?_of_reads hm, hchars] using hrest
  | false =>
      obtain ⟨t, us, rfl⟩ := List.exists_cons_of_ne_nil hts
      obtain ⟨m, hm, hus⟩ := hs
      unfold skipMut
      split
      · next name rest hid =>
          obtain ⟨w, rfl, hw⟩ := word_of_identifier? hm hid
          have hne : name ≠ "mut".toList := fun hname =>
            hmut rfl ⟨w, us, rfl, hw.trans hname⟩
          rw [if_neg hne]
          exact ⟨m, hm, hus⟩
      · exact ⟨m, hm, hus⟩

/-! ## types -/

/-- A tree fits into so many levels of nesting, and its paths can be told from
what else starts a type. -/
def Tree.Fits (room : Nat) (tree : Tree) : Prop := tree.nesting ≤ room ∧ tree.Opens

/-- No tree fits into no level. -/
theorem Tree.not_fits_zero (tree : Tree) : ¬ tree.Fits 0 := fun h =>
  absurd h.1 (Nat.not_le.mpr tree.nesting_pos)

/-- A tree fits if what is right below it fits one level below. -/
theorem Tree.fits_succ {room : Nat} {tree : Tree} :
    tree.Fits (room + 1) ↔ tree.OpensHere ∧ ∀ t ∈ tree.children, t.Fits room := by
  rw [Tree.Fits, Tree.nesting_le_succ, Tree.Opens, Tree.forall_nodes]
  constructor
  · rintro ⟨hnesting, hself, hbelow⟩
    exact ⟨hself, fun t ht => ⟨hnesting t ht, hbelow t ht⟩⟩
  · rintro ⟨hself, hbelow⟩
    exact ⟨fun t ht => (hbelow t ht).1, hself, fun t ht => (hbelow t ht).2⟩

/-- A path is read if it can be told from what else starts a type. -/
theorem readType_path {room : Nat} {s r : List Char} {c : Char} (h : skipBlanks s = c :: r)
    (hamp : c ≠ '&') (hparen : c ≠ '(') (hbracket : c ≠ '[') :
    readType (room + 1) s =
      if startsPath c then readPath (readType room) (skipBlanks s)
      else .error ⟨.unexpectedCharacter c, skipBlanks s⟩ := by
  rw [readType, h]
  split <;> simp_all

/-- The tokens behind the ampersand of a reference do not start with a tick
unless it has a lifetime. -/
theorem head?_keyword_append (mutable : Bool) (inner : Tree) :
    (keyword mutable ++ inner.tokens).head? ≠ some (.mark .tick) := by
  cases mutable with
  | true => simp [keyword]
  | false =>
      cases inner with
      | path rooted first more arguments comma =>
          cases rooted <;> simp [keyword, Tree.tokens, root, nameTokens]
      | _ => simp [keyword, Tree.tokens]

/-- The reader of types decides trees. -/
theorem readType_decides (room : Nat) : Decides (readType room) (Tree.Fits room) := by
  induction room with
  | zero =>
      intro tree s r v _ _ _
      simp [readType, tree.not_fits_zero]
  | succ room ih =>
      intro tree s r v hs hg hr
      obtain ⟨hself, hbelow⟩ := Tree.forall_nodes.mp hg
      rw [Tree.fits_succ]
      cases tree with
      | reference lifetime mutable inner =>
          obtain ⟨m, hm, hrest⟩ := hs
          obtain ⟨hunnamed, hmut⟩ := hself
          have hamp : skipBlanks s = '&' :: m := reads_mark.mp hm
          have hne : keyword mutable ++ inner.tokens ≠ [] := by simp [inner.tokens_ne_nil]
          have hlife := spells_skipLifetime hrest hne hunnamed (head?_keyword_append mutable inner)
          have hinner := spells_skipMut hlife inner.tokens_ne_nil hmut
          rw [readType, hamp]
          simpa [Tree.children, Tree.meaning, Tree.OpensHere] using
            ih hinner (hbelow inner (by simp [Tree.children])) hr
      | tuple items comma =>
          obtain ⟨m, hm, hrest⟩ := hs
          have hparen : skipBlanks s = '(' :: m := reads_mark.mp hm
          rw [readType, hparen]
          simpa [Tree.children, Tree.OpensHere] using readTuple_eq_ok ih hrest hbelow
      | sequence element =>
          obtain ⟨m, hm, hrest⟩ := hs
          have hbracket : skipBlanks s = '[' :: m := reads_mark.mp hm
          rw [readType, hbracket]
          simpa [Tree.children, Tree.meaning, Tree.OpensHere] using
            readBracketed_sequence ih hrest (hbelow element (by simp [Tree.children]))
      | array element length =>
          obtain ⟨m, hm, hrest⟩ := hs
          have hbracket : skipBlanks s = '[' :: m := reads_mark.mp hm
          rw [readType, hbracket]
          simpa [Tree.children, Tree.meaning, Tree.OpensHere] using
            readBracketed_array ih hrest (hbelow element (by simp [Tree.children]))
      | path rooted first more arguments comma =>
          have hread := readPath_eq_ok (v := v) ih
            ((spells_skipBlanks (Tree.tokens_ne_nil _)).mpr hs) hbelow hr
          cases rooted with
          | true =>
              obtain ⟨m, hm, -⟩ := hs
              have hscope : skipBlanks s = ':' :: ':' :: m := reads_mark.mp hm
              rw [readType_path hscope (by decide) (by decide) (by decide), if_pos (by decide)]
              simpa [Tree.children, Tree.OpensHere] using hread
          | false =>
              obtain ⟨m, hm, -⟩ := hs
              have hfirst := first_of_reads_word hm
              have hne : ∀ c, startsIdentifier c = false → first.first ≠ c := by
                rintro c hc rfl
                rw [first.starts] at hc
                contradiction
              have hstart : startsPath first.first =
                  (isAlphabetic first.first || first.first == '_') := by
                simp [startsPath, hne ':' (by decide)]
              rw [readType_path hfirst (hne _ (by decide)) (hne _ (by decide)) (hne _ (by decide)),
                hstart, Tree.OpensHere]
              by_cases hopens : (isAlphabetic first.first || first.first == '_') = true
              · rw [if_pos hopens, hread]
                simp only [hopens, true_and, Tree.children]
              · rw [if_neg hopens]
                simp [hopens]

/-- Nothing is left where only blanks are left. -/
theorem closes_of_blank {r : List Char} (h : skipBlanks r = []) : Closes r := by
  have hnone : ∀ token : List Char, token ≠ [] → token? token r = none := by
    intro token htoken
    cases ht : token? token r with
    | none => rfl
    | some m =>
        rw [token?_eq_some, h] at ht
        exact absurd (List.append_eq_nil_iff.mp ht.symm).1 htoken
  exact ⟨hnone _ (by simp), hnone _ (by simp)⟩

/-- On a spelling of a tree the parser gives its meaning if the tree fits, and
fails otherwise. -/
theorem parseChars_eq_ok {tree : Tree} {source r : List Char} {t : Native}
    (hs : Spells tree.tokens source r) (hg : tree.Greedy) (hr : skipBlanks r = []) :
    parseChars source = .ok t ↔ t = tree.meaning ∧ tree.Fits maxNesting := by
  rw [parseChars, bind_eq_ok_of_iff fun _ =>
    readType_decides maxNesting hs hg (closes_of_blank hr), and_comm]
  simp [hr, eq_comm (a := t)]

/-- A text is parsed as its characters are. -/
theorem parse_eq_ok {source : String} {t : Native} :
    parse source = .ok t ↔ parseChars source.toList = .ok t := by
  rw [parse]
  cases parseChars source.toList <;> simp

end DeclGen.Native
