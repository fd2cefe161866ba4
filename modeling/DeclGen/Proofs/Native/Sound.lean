import DeclGen.Proofs.Native.Complete

/-!
# DeclGen.Proofs.Native.Sound

Whatever the reader of types accepts is the spelling of a tree, and the answer
is what the tree means.  As in `DeclGen.Proofs.Native.Complete` the item reader
is a parameter, and `Accepts` is what is needed of it.
-/

namespace DeclGen.Native

open Text

/-- A text spells a tree that means `t` and fits, and `r` follows it. -/
structure Tree.Stands (fits : Tree → Prop) (tree : Tree) (s : List Char) (t : Native)
    (r : List Char) : Prop where
  spells : Spells tree.tokens s r
  greedy : tree.Greedy
  fits : fits tree
  meaning : tree.meaning = t

/-- A reader accepts only spellings of trees that fit. -/
def Accepts (item : Reader Native) (fits : Tree → Prop) : Prop :=
  ∀ {s r : List Char} {t : Native}, item s = .ok (t, r) → ∃ tree, Tree.Stands fits tree s t r

variable {item : Reader Native} {fits : Tree → Prop}

/-! ## tuples -/

/-- The comma behind the last item does not show where there is no item. -/
theorem separated_or_isEmpty (comma : Bool) (parts : List (List Token)) :
    separated (parts.isEmpty || comma) parts = separated comma parts := by
  cases parts <;> simp [separated]

/-- Only items of tuples are read. -/
theorem spells_of_tupleItems (h : Accepts item fits) {fuel : Nat} {s r : List Char}
    {ts : List Native} {flag : Bool} (hs : tupleItems item fuel s = .ok ((ts, flag), r)) :
    ∃ items comma, Spells (separated comma (Tree.tokensAll items) ++ [.mark .closeParen]) s r ∧
      (∀ t ∈ items, t.Greedy ∧ fits t) ∧ items.map Tree.meaning = ts ∧
      (comma && !items.isEmpty) = flag := by
  induction fuel generalizing s ts flag with
  | zero => simp [tupleItems] at hs
  | succ fuel ih =>
      rw [tupleItems] at hs
      split at hs
      · next k hclose =>
          simp only [Except.ok.injEq, Prod.mk.injEq] at hs
          obtain ⟨⟨rfl, rfl⟩, rfl⟩ := hs
          refine ⟨[], false, ?_, by simp, rfl, rfl⟩
          simpa [separated, Tree.tokensAll] using token?_eq_some.mp hclose
      · obtain ⟨⟨t, m⟩, ht, hs⟩ := bind_eq_ok.mp hs
        obtain ⟨tree, htree⟩ := h ht
        have hspells := (spells_skipBlanks tree.tokens_ne_nil).mp htree.spells
        dsimp only at hs
        split at hs
        · next k hcomma =>
            obtain ⟨⟨⟨us, more⟩, j⟩, hmore, hs⟩ := bind_eq_ok.mp hs
            simp only [Except.ok.injEq, Prod.mk.injEq] at hs
            obtain ⟨⟨rfl, rfl⟩, rfl⟩ := hs
            obtain ⟨items, comma, hitems, hall, rfl, rfl⟩ := ih hmore
            refine ⟨tree :: items, items.isEmpty || comma, ?_, ?_, ?_, ?_⟩
            · have hempty : (Tree.tokensAll items).isEmpty = items.isEmpty := by
                rw [Tree.tokensAll_eq_map, List.isEmpty_map]
              rw [Tree.tokensAll, separated, ← hempty, separated_or_isEmpty, List.append_assoc,
                spells_append]
              refine ⟨m, hspells, ?_⟩
              rw [if_neg (by cases (Tree.tokensAll items).isEmpty <;> simp), List.cons_append]
              exact ⟨k, reads_mark.mpr (token?_eq_some.mp hcomma), hitems⟩
            · simpa using ⟨⟨htree.greedy, htree.fits⟩, hall⟩
            · simp [htree.meaning]
            · cases items <;> simp
        · split at hs
          · next k hclose =>
              simp only [Except.ok.injEq, Prod.mk.injEq] at hs
              obtain ⟨⟨rfl, rfl⟩, rfl⟩ := hs
              refine ⟨[tree], false, ?_, ?_, ?_, rfl⟩
              · have hmark := token?_eq_some.mp hclose
                simp [separated, Tree.tokensAll]
                exact ⟨m, hspells, hmark⟩
              · simpa using ⟨htree.greedy, htree.fits⟩
              · simp [htree.meaning]
          · contradiction

/-- Only tuples are read. -/
theorem spells_of_readTuple (h : Accepts item fits) {s r : List Char} {t : Native}
    (hs : readTuple item s = .ok (t, r)) :
    ∃ items comma, Spells (separated comma (Tree.tokensAll items) ++ [.mark .closeParen]) s r ∧
      (∀ t ∈ items, t.Greedy ∧ fits t) ∧ (Tree.tuple items comma).meaning = t := by
  obtain ⟨⟨⟨ts, flag⟩, k⟩, hitems, hs⟩ := bind_eq_ok.mp hs
  simp only [Except.ok.injEq, Prod.mk.injEq] at hs
  obtain ⟨rfl, rfl⟩ := hs
  obtain ⟨items, comma, hspells, hall, rfl, rfl⟩ := spells_of_tupleItems h hitems
  exact ⟨items, comma, hspells, hall, Tree.meaning_tuple items comma⟩

/-! ## sequences and arrays -/

/-- Only sequences and arrays are read. -/
theorem spells_of_readBracketed (h : Accepts item fits) {s r : List Char} {t : Native}
    (hs : readBracketed item s = .ok (t, r)) : ∃ element, element.Greedy ∧ fits element ∧
      (Spells (element.tokens ++ [.mark .closeBracket]) s r ∧ t = .sequence element.meaning ∨
      ∃ length, Spells (element.tokens ++
        [.mark .semicolon, .numeral length, .mark .closeBracket]) s r ∧
        t = .array element.meaning length.value) := by
  obtain ⟨⟨u, m⟩, hu, hs⟩ := bind_eq_ok.mp hs
  obtain ⟨element, helement⟩ := h hu
  refine ⟨element, helement.greedy, helement.fits, ?_⟩
  dsimp only at hs
  split at hs
  · next k hclose =>
      simp only [Except.ok.injEq, Prod.mk.injEq] at hs
      obtain ⟨rfl, rfl⟩ := hs
      refine .inl ⟨?_, by rw [helement.meaning]⟩
      exact spells_append.mpr
        ⟨m, helement.spells, k, reads_mark.mpr (token?_eq_some.mp hclose), rfl⟩
  · obtain ⟨k, hsemi, hs⟩ := bind_eq_ok.mp hs
    obtain ⟨⟨v, j⟩, hlength, hs⟩ := bind_eq_ok.mp hs
    obtain ⟨i, hclose, hs⟩ := bind_eq_ok.mp hs
    simp only [Except.ok.injEq, Prod.mk.injEq] at hs
    obtain ⟨rfl, rfl⟩ := hs
    obtain ⟨n, rfl, hn⟩ := reads_of_readLength hlength
    refine .inr ⟨n, ?_, by rw [helement.meaning]⟩
    exact spells_append.mpr ⟨m, helement.spells, k, reads_mark.mpr (expect_eq_ok.mp hsemi), j, hn,
      i, reads_mark.mpr (expect_eq_ok.mp hclose), rfl⟩

/-! ## paths -/

/-- Only names of paths are read. -/
theorem spells_of_pathSegments {fuel : Nat} {s r : List Char} {names : List (List Char)}
    (hs : pathSegments fuel s = .ok (names, r)) :
    ∃ first more, Spells (nameTokens first more) s r ∧
      names = first.chars :: more.map Word.chars := by
  induction fuel generalizing s names with
  | zero => simp [pathSegments] at hs
  | succ fuel ih =>
      rw [pathSegments] at hs
      split at hs
      · contradiction
      · next name m hname =>
          obtain ⟨w, rfl, hw⟩ := reads_of_identifier? hname
          split at hs
          · simp only [Except.ok.injEq, Prod.mk.injEq] at hs
            obtain ⟨rfl, rfl⟩ := hs
            exact ⟨w, [], ⟨m, hw, rfl⟩, rfl⟩
          · next k hscope =>
              obtain ⟨⟨others, j⟩, hothers, hs⟩ := bind_eq_ok.mp hs
              simp only [Except.ok.injEq, Prod.mk.injEq] at hs
              obtain ⟨rfl, rfl⟩ := hs
              obtain ⟨v, more, hmore, rfl⟩ := ih hothers
              exact ⟨w, v :: more,
                ⟨m, hw, k, reads_mark.mpr (token?_eq_some.mp hscope), hmore⟩, rfl⟩

/-- Only arguments are read: what is read can be put in front of any others. -/
theorem spells_of_readArgument (h : Accepts item fits) {s m : List Char} {given : List Native}
    (hs : readArgument item s = .ok (given, m)) :
    ∃ part, Spells part s m ∧ ∀ rest : Arguments, (∀ t ∈ rest.types, t.Greedy ∧ fits t) →
      ∃ as : Arguments, as.parts = part :: rest.parts ∧ as.meanings = given ++ rest.meanings ∧
        ∀ t ∈ as.types, t.Greedy ∧ fits t := by
  unfold readArgument at hs
  split at hs
  · next k htick =>
      split at hs
      · next name j hname =>
          obtain ⟨w, rfl, hw⟩ := reads_of_identifier? hname
          simp only [Except.ok.injEq, Prod.mk.injEq] at hs
          obtain ⟨rfl, rfl⟩ := hs
          refine ⟨[.mark .tick, .word w], ⟨k, reads_mark.mpr htick, j, hw, rfl⟩, ?_⟩
          intro rest hrest
          exact ⟨.lifetime w rest, rfl, rfl, hrest⟩
      · contradiction
  · obtain ⟨⟨t, k⟩, ht, hs⟩ := bind_eq_ok.mp hs
    simp only [Except.ok.injEq, Prod.mk.injEq] at hs
    obtain ⟨rfl, rfl⟩ := hs
    obtain ⟨tree, htree⟩ := h ht
    refine ⟨tree.tokens, (spells_skipBlanks tree.tokens_ne_nil).mp htree.spells, ?_⟩
    intro rest hrest
    refine ⟨.type tree rest, rfl, by simp [Arguments.meanings, htree.meaning], ?_⟩
    simpa [Arguments.types] using ⟨⟨htree.greedy, htree.fits⟩, hrest⟩

/-- Only arguments of paths are read. -/
theorem spells_of_pathArguments (h : Accepts item fits) {fuel : Nat} {s r : List Char}
    {ts : List Native} (hs : pathArguments item fuel s = .ok (ts, r)) :
    ∃ (as : Arguments) (comma : Bool), as.parts ≠ [] ∧
      Spells (separated comma as.parts ++ [.mark .closeAngle]) s r ∧
      (∀ t ∈ as.types, t.Greedy ∧ fits t) ∧ as.meanings = ts := by
  induction fuel generalizing s ts with
  | zero => simp [pathArguments] at hs
  | succ fuel ih =>
      rw [pathArguments] at hs
      obtain ⟨⟨given, m⟩, hgiven, hs⟩ := bind_eq_ok.mp hs
      obtain ⟨part, hpart, hextend⟩ := spells_of_readArgument h hgiven
      dsimp only at hs
      split at hs
      · next k hclose =>
          simp only [Except.ok.injEq, Prod.mk.injEq] at hs
          obtain ⟨rfl, rfl⟩ := hs
          obtain ⟨as, hparts, hmeanings, hall⟩ := hextend .nil (by simp [Arguments.types])
          refine ⟨as, false, by simp [hparts], ?_, hall, by simp [hmeanings, Arguments.meanings]⟩
          rw [hparts, separated, List.append_assoc, spells_append]
          exact ⟨m, hpart, k, reads_mark.mpr (token?_eq_some.mp hclose), rfl⟩
      · obtain ⟨k, hcomma, hs⟩ := bind_eq_ok.mp hs
        have hreads : (Token.mark .comma).Reads m k := reads_mark.mpr (expect_eq_ok.mp hcomma)
        split at hs
        · next j hclose =>
            simp only [Except.ok.injEq, Prod.mk.injEq] at hs
            obtain ⟨rfl, rfl⟩ := hs
            obtain ⟨as, hparts, hmeanings, hall⟩ := hextend .nil (by simp [Arguments.types])
            refine ⟨as, true, by simp [hparts], ?_, hall, by simp [hmeanings, Arguments.meanings]⟩
            rw [hparts, separated, List.append_assoc, spells_append]
            exact ⟨m, hpart, k, hreads, j, reads_mark.mpr (token?_eq_some.mp hclose), rfl⟩
        · obtain ⟨⟨more, j⟩, hmore, hs⟩ := bind_eq_ok.mp hs
          simp only [Except.ok.injEq, Prod.mk.injEq] at hs
          obtain ⟨rfl, rfl⟩ := hs
          obtain ⟨rest, comma, hne, hrest, hgood, rfl⟩ := ih hmore
          obtain ⟨as, hparts, hmeanings, hall⟩ := hextend rest hgood
          refine ⟨as, comma, by simp [hparts], ?_, hall, hmeanings⟩
          rw [hparts, separated, if_neg (by simp [hne]), List.append_assoc, spells_append]
          exact ⟨m, hpart, k, hreads, hrest⟩

/-- What is passed over in front of a path is its root. -/
theorem spells_root (s : List Char) :
    ∃ rooted, Spells (root rooted) s ((token? [':', ':'] s).getD s) := by
  cases hscope : token? [':', ':'] s with
  | none => exact ⟨false, rfl⟩
  | some k => exact ⟨true, k, reads_mark.mpr (token?_eq_some.mp hscope), rfl⟩

/-- Only paths are read. -/
theorem spells_of_readPath (h : Accepts item fits) {s r : List Char} {t : Native}
    (hs : readPath item s = .ok (t, r)) :
    ∃ (rooted : Bool) (first : Word) (more : List Word) (arguments : Arguments) (comma : Bool),
      Spells (Tree.path rooted first more arguments comma).tokens s r ∧
      (∀ t ∈ arguments.types, t.Greedy ∧ fits t) ∧
      (Tree.path rooted first more arguments comma).meaning = t := by
  obtain ⟨⟨names, m⟩, hnames, hs⟩ := bind_eq_ok.mp hs
  obtain ⟨first, more, hmore, rfl⟩ := spells_of_pathSegments hnames
  obtain ⟨rooted, hroot⟩ := spells_root s
  dsimp only at hs
  split at hs
  · simp only [Except.ok.injEq, Prod.mk.injEq] at hs
    obtain ⟨rfl, rfl⟩ := hs
    refine ⟨rooted, first, more, .nil, false, ?_, by simp [Arguments.types],
      (ofPath_pathText first more []).symm⟩
    exact spells_append.mpr ⟨_, hroot, spells_append.mpr ⟨m, hmore, rfl⟩⟩
  · next k hopen =>
      obtain ⟨⟨ts, j⟩, harguments, hs⟩ := bind_eq_ok.mp hs
      simp only [Except.ok.injEq, Prod.mk.injEq] at hs
      obtain ⟨rfl, rfl⟩ := hs
      obtain ⟨as, comma, hne, has, hall, rfl⟩ := spells_of_pathArguments h harguments
      refine ⟨rooted, first, more, as, comma, ?_, hall, (ofPath_pathText first more _).symm⟩
      obtain ⟨part, rest, hparts⟩ := List.exists_cons_of_ne_nil hne
      refine spells_append.mpr ⟨_, hroot, spells_append.mpr ⟨m, hmore, ?_⟩⟩
      rw [hparts, angled, ← hparts]
      exact ⟨k, reads_mark.mpr (token?_eq_some.mp hopen), has⟩

/-! ## references -/

/-- What is passed over in front of a reference is a lifetime. -/
theorem spells_of_skipLifetime {ts : List Token} {s r : List Char} (hts : ts ≠ [])
    (hs : Spells ts (skipLifetime s) r) :
    ∃ lifetime : Lifetime, Spells (lifetime.tokens ++ ts) s r ∧
      (lifetime = .unnamed → ¬ StartsWith (fun _ => True) ts) := by
  unfold skipLifetime at hs
  split at hs
  · next m htick =>
      have htick : (Token.mark .tick).Reads s m := reads_mark.mpr htick
      split at hs
      · next name k hname =>
          obtain ⟨w, -, hw⟩ := reads_of_identifier? hname
          exact ⟨.named w, ⟨m, htick, k, hw, hs⟩, by simp⟩
      · next hnone =>
          have hs := (spells_skipBlanks hts).mp hs
          refine ⟨.unnamed, ⟨m, htick, hs⟩, ?_⟩
          rintro - ⟨w, us, rfl, -⟩
          obtain ⟨k, hk, -⟩ := hs
          rw [identifier?_of_reads hk] at hnone
          contradiction
  · exact ⟨.absent, (spells_skipBlanks hts).mp hs, by simp⟩

/-- Words are equal if their characters are. -/
theorem Word.eq_of_chars {v w : Word} (h : v.chars = w.chars) : v = w := by
  cases v
  cases w
  simp only [Word.chars, List.cons.injEq] at h
  simp [h.1, h.2]

/-- What is passed over behind the lifetime is the keyword. -/
theorem spells_of_skipMut {ts : List Token} {s r : List Char} (hs : Spells ts (skipMut s) r) :
    ∃ mutable, Spells (keyword mutable ++ ts) s r ∧
      (mutable = false → ¬ StartsWith (fun w => w.chars = Word.mut.chars) ts) := by
  have hmut : Word.mut.chars = "mut".toList := by decide
  unfold skipMut at hs
  split at hs
  · next name k hname =>
      split at hs
      · next heq =>
          obtain ⟨w, hw, hreads⟩ := reads_of_identifier? hname
          obtain rfl : w = .mut := Word.eq_of_chars (hw.trans (heq.trans hmut.symm))
          exact ⟨true, ⟨k, hreads, hs⟩, by simp⟩
      · next hne =>
          refine ⟨false, hs, ?_⟩
          rintro - ⟨w, us, rfl, hw⟩
          obtain ⟨m, hm, -⟩ := hs
          rw [identifier?_of_reads hm, Option.some.injEq, Prod.mk.injEq] at hname
          exact hne (hname.1.symm.trans (hw.trans hmut))
  · next hnone =>
      refine ⟨false, hs, ?_⟩
      rintro - ⟨w, us, rfl, -⟩
      obtain ⟨m, hm, -⟩ := hs
      rw [identifier?_of_reads hm] at hnone
      contradiction

/-! ## types -/

/-- A tree stands where its tokens do, if it and what is right below it meet
the conditions. -/
theorem Tree.stands_succ {room : Nat} {tree : Tree} {s r : List Char}
    (hs : Spells tree.tokens s r) (hgreedy : tree.GreedyHere) (hopens : tree.OpensHere)
    (hbelow : ∀ t ∈ tree.children, t.Greedy ∧ t.Fits room) :
    Tree.Stands (Tree.Fits (room + 1)) tree s tree.meaning r where
  spells := hs
  greedy := Tree.forall_nodes.mpr ⟨hgreedy, fun t ht => (hbelow t ht).1⟩
  fits := Tree.fits_succ.mpr ⟨hopens, fun t ht => (hbelow t ht).2⟩
  meaning := rfl

/-- A path starts as it has to if the text does, wherever its first word is read. -/
theorem Tree.opensHere_path {rooted comma : Bool} {first : Word} {more : List Word}
    {arguments : Arguments} {s r : List Char} {c : Char} (hc : skipBlanks s = c :: r)
    (hstart : startsPath c = true) (hfirst : rooted = false → ∃ m, (Token.word first).Reads s m) :
    (Tree.path rooted first more arguments comma).OpensHere := by
  cases rooted with
  | true => trivial
  | false =>
      obtain ⟨m, hm⟩ := hfirst rfl
      have hword := first_of_reads_word hm
      have hcolon : first.first ≠ ':' := fun hcolon =>
        colon_not_mem_chars first (hcolon ▸ List.mem_cons_self)
      rw [hc, List.cons.injEq] at hword
      rw [hword.1] at hstart
      simpa [startsPath, Tree.OpensHere, hcolon] using hstart

/-- The reader of types accepts only spellings of trees. -/
theorem readType_accepts (room : Nat) : Accepts (readType room) (Tree.Fits room) := by
  induction room with
  | zero =>
      intro s r t hs
      simp [readType] at hs
  | succ room ih =>
      intro s r t hs
      rw [readType] at hs
      split at hs
      · contradiction
      · next m hamp =>
          obtain ⟨inner, hinner⟩ := ih hs
          obtain ⟨mutable, hmutable, hmut⟩ := spells_of_skipMut hinner.spells
          have hne : keyword mutable ++ inner.tokens ≠ [] := by simp [inner.tokens_ne_nil]
          obtain ⟨lifetime, hlifetime, hunnamed⟩ := spells_of_skipLifetime hne hmutable
          refine ⟨.reference lifetime mutable inner, ?_⟩
          rw [← hinner.meaning]
          refine Tree.stands_succ ⟨m, reads_mark.mpr hamp, hlifetime⟩ ⟨hunnamed, hmut⟩ trivial ?_
          simpa [Tree.children] using ⟨hinner.greedy, hinner.fits⟩
      · next m hparen =>
          obtain ⟨items, comma, hitems, hall, rfl⟩ := spells_of_readTuple ih hs
          exact ⟨.tuple items comma,
            Tree.stands_succ ⟨m, reads_mark.mpr hparen, hitems⟩ trivial trivial hall⟩
      · next m hbracket =>
          obtain ⟨element, hgreedy, hfits, hcases⟩ := spells_of_readBracketed ih hs
          rcases hcases with ⟨hspells, rfl⟩ | ⟨length, hspells, rfl⟩
          · refine ⟨.sequence element, Tree.stands_succ ⟨m, reads_mark.mpr hbracket, hspells⟩
              trivial trivial ?_⟩
            simpa [Tree.children] using ⟨hgreedy, hfits⟩
          · refine ⟨.array element length, Tree.stands_succ ⟨m, reads_mark.mpr hbracket, hspells⟩
              trivial trivial ?_⟩
            simpa [Tree.children] using ⟨hgreedy, hfits⟩
      · next c m _ _ _ hc =>
          split at hs
          · next hstart =>
              obtain ⟨rooted, first, more, arguments, comma, hspells, hall, rfl⟩ :=
                spells_of_readPath ih hs
              rw [← hc] at hspells
              have hspells := (spells_skipBlanks (Tree.tokens_ne_nil _)).mp hspells
              refine ⟨.path rooted first more arguments comma,
                Tree.stands_succ hspells trivial (Tree.opensHere_path hc hstart ?_) hall⟩
              rintro rfl
              obtain ⟨k, hk, -⟩ := hspells
              exact ⟨k, hk⟩
          · contradiction

/-- Whatever is parsed is the spelling of a tree that fits. -/
theorem stands_of_parseChars {source : List Char} {t : Native}
    (h : parseChars source = .ok t) :
    ∃ tree r, Tree.Stands (Tree.Fits maxNesting) tree source t r ∧ skipBlanks r = [] := by
  obtain ⟨⟨u, r⟩, hu, h⟩ := bind_eq_ok.mp h
  obtain ⟨tree, htree⟩ := readType_accepts maxNesting hu
  dsimp only at h
  split at h
  · next hblank =>
      obtain rfl := Except.ok.inj h
      exact ⟨tree, r, htree, hblank⟩
  · contradiction

/-! ## the grammar -/

/-- **The parser accepts exactly the grammar**: a text is parsed to a type if
and only if it is a spelling of a tree that means this type and in which at most
64 types are nested in each other. -/
theorem parse_eq_ok_iff_spelling (source : String) (t : Native) :
    parse source = .ok t ↔
      ∃ tree : Tree, tree.Spelling source.toList ∧ tree.nesting ≤ 64 ∧ tree.meaning = t := by
  rw [parse_eq_ok]
  constructor
  · intro h
    obtain ⟨tree, r, htree, hblank⟩ := stands_of_parseChars h
    exact ⟨tree, ⟨htree.greedy, htree.fits.2, r, htree.spells, hblank⟩, htree.fits.1, htree.meaning⟩
  · rintro ⟨tree, ⟨hgreedy, hopens, r, hspells, hblank⟩, hnesting, rfl⟩
    exact (parseChars_eq_ok hspells hgreedy hblank).mpr ⟨rfl, hnesting, hopens⟩

set_option maxRecDepth 20000 in
/-- Only the first `mut` is the keyword, and a lifetime leaves no argument. -/
example : parse "&'a mut (mut, Vec<'a, u8,>)" =
    .ok (tuple [named "mut" [], sequence (primitive .u8)]) := by rfl

end DeclGen.Native
