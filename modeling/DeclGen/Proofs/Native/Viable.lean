import DeclGen.Proofs.Native.Printed

/-!
# DeclGen.Proofs.Native.Viable

A fault stands at the first wrong place: the text in front of it is right so
far, which is to say that it can be completed to a type.

Whatever a reader has read when it fails is a beginning of the tokens of some
tree.  `BreaksOff ts s rest` says so of the tokens `ts`: the text from `s` up to
`rest` spells the first of them.

* `BreaksOff.completes` writes the missing tokens in the place of `rest`;
* `Breaks` is what is needed of the item reader: it breaks off in a tree that
  fits.  As in `DeclGen.Proofs.Native.Sound` the lemmas take it to each shape,
  and `readType_breaks` closes the circle;
* a tree may not fit only if nesting is the fault, so `Fault.Allows` leaves that
  case out.
-/

namespace DeclGen.Native

open Text

/-! ## only blanks -/

/-- Only blanks stand between two places of a text. -/
def BlankUpTo (s rest : List Char) : Prop :=
  ∃ blanks, s = blanks ++ rest ∧ ∀ c ∈ blanks, isBlank c = true

theorem BlankUpTo.refl (s : List Char) : BlankUpTo s s := ⟨[], rfl, by simp⟩

theorem BlankUpTo.trans {s m rest : List Char} (h : BlankUpTo s m) (h' : BlankUpTo m rest) :
    BlankUpTo s rest := by
  obtain ⟨blanks, rfl, hblanks⟩ := h
  obtain ⟨others, rfl, hothers⟩ := h'
  refine ⟨blanks ++ others, (List.append_assoc _ _ _).symm, ?_⟩
  exact List.forall_mem_append.mpr ⟨hblanks, hothers⟩

theorem blankUpTo_skipBlanks (s : List Char) : BlankUpTo s (skipBlanks s) :=
  ⟨s.takeWhile isBlank, List.takeWhile_append_dropWhile.symm,
    fun c hc => List.all_eq_true.mp List.all_takeWhile c hc⟩

/-! ## writing tokens -/

/-- A token is read in front of a text that does not lengthen a word. -/
theorem Token.reads_append (t : Token) {r : List Char} (hr : Ends r) :
    t.Reads (t.chars ++ r) r := by
  cases t with
  | mark m => exact reads_mark_append m r
  | word w => exact reads_word_append w hr
  | numeral n => exact reads_numeral_append n r

/-- All tokens can be written, with a space in front of each. -/
theorem exists_spells (ts : List Token) : ∃ w, Ends w ∧ Spells ts w [] := by
  induction ts with
  | nil => exact ⟨[], by simp [Ends], rfl⟩
  | cons t ts ih =>
      obtain ⟨w, hends, hw⟩ := ih
      refine ⟨' ' :: (t.chars ++ w), ends_cons (by decide), ?_⟩
      exact (spells_space (by simp)).mpr ⟨w, t.reads_append hends, hw⟩

/-- What follows a token can be replaced by whatever ends a word if that does. -/
theorem Token.Reads.replace {t : Token} {s m : List Char} (h : t.Reads s m) :
    ∃ front, s = front ++ m ∧ ∀ k, (Ends m → Ends k) → t.Reads (front ++ k) k := by
  obtain ⟨blanks, hs, hblanks⟩ := blankUpTo_skipBlanks s
  obtain ⟨hm, hends⟩ := h
  refine ⟨blanks ++ t.chars, by rw [List.append_assoc, ← hm, ← hs], ?_⟩
  intro k hk
  refine ⟨?_, ?_⟩
  · -- the token's first character is the one that stopped the blanks
    have hhead : (t.chars ++ k).head? = (skipBlanks s).head? := by
      obtain ⟨c, cs, hc⟩ := List.exists_cons_of_ne_nil t.chars_ne_nil
      rw [hm, hc]
      rfl
    rw [List.append_assoc, skipBlanks_append hblanks]
    exact skipBlanks_of_head fun c hc => isBlank_of_head_skipBlanks (hhead ▸ hc)
  · cases t with
    | word w => exact hk hends
    | mark m => trivial
    | numeral n => trivial

/-! ## tokens that break off -/

/-- The text from `s` up to `rest` spells the first of some tokens. -/
inductive BreaksOff : List Token → List Char → List Char → Prop where
  /-- No more tokens are read. -/
  | here {ts : List Token} {s rest : List Char} : BlankUpTo s rest → BreaksOff ts s rest
  | next {t : Token} {ts : List Token} {s m rest : List Char} :
    t.Reads s m → BreaksOff ts m rest → BreaksOff (t :: ts) s rest

/-- **The missing tokens can be written** in the place where the tokens break
off. -/
theorem BreaksOff.completes {ts : List Token} {s rest : List Char} (h : BreaksOff ts s rest) :
    ∃ before w r, s = before ++ rest ∧ Ends w ∧ Spells ts (before ++ w) r ∧
      skipBlanks r = [] := by
  induction h with
  | @here ts s rest hblank =>
      obtain ⟨blanks, hs, hblanks⟩ := hblank
      obtain ⟨w, hends, hw⟩ := exists_spells ts
      cases ts with
      | nil =>
          obtain rfl : w = [] := hw
          refine ⟨blanks, [], blanks, hs, hends, List.append_nil blanks, ?_⟩
          have hskip : skipBlanks (blanks ++ []) = skipBlanks [] := skipBlanks_append hblanks
          rwa [List.append_nil] at hskip
      | cons t ts =>
          refine ⟨blanks, w, [], hs, hends, ?_, rfl⟩
          have hne : t :: ts ≠ [] := by simp
          rwa [← spells_skipBlanks hne, skipBlanks_append hblanks, spells_skipBlanks hne]
  | next hread _ ih =>
      obtain ⟨before, w, r, rfl, hends, hspells, hr⟩ := ih
      obtain ⟨front, hs, hreplace⟩ := hread.replace
      refine ⟨front ++ before, w, r, by rw [hs, List.append_assoc], hends, ?_, hr⟩
      rw [List.append_assoc]
      refine ⟨before ++ w, hreplace _ ?_, hspells⟩
      cases before with
      | nil => exact fun _ => hends
      | cons c before => exact id

/-- Tokens that break off, behind others. -/
theorem BreaksOff.append_left {ts us : List Token} {s m rest : List Char} (hs : Spells ts s m)
    (h : BreaksOff us m rest) : BreaksOff (ts ++ us) s rest := by
  induction ts generalizing s with
  | nil =>
      obtain rfl : s = m := hs
      exact h
  | cons t ts ih =>
      obtain ⟨k, hk, hts⟩ := hs
      exact .next hk (ih hts)

/-- More tokens do not matter behind the place where some break off. -/
theorem BreaksOff.append_right {ts : List Token} {s rest : List Char} (h : BreaksOff ts s rest)
    (us : List Token) : BreaksOff (ts ++ us) s rest := by
  induction h with
  | here hblank => exact .here hblank
  | next hread _ ih => exact .next hread ih

/-- Blanks in front of the first token do not matter. -/
theorem BreaksOff.of_skipBlanks {ts : List Token} {s rest : List Char}
    (h : BreaksOff ts (skipBlanks s) rest) : BreaksOff ts s rest := by
  cases h with
  | here hblank => exact .here ((blankUpTo_skipBlanks s).trans hblank)
  | next hread hrest => exact .next (reads_skipBlanks.mp hread) hrest

/-- Tokens that break off, and that start with no word unless one is read: a
reference in front of them does not take a word that is to be written yet. -/
inductive Begins : List Token → List Char → List Char → Prop where
  | here {ts : List Token} {s rest : List Char} : BlankUpTo s rest →
    ¬ StartsWith (fun _ => True) ts → Begins ts s rest
  | next {t : Token} {ts : List Token} {s m rest : List Char} :
    t.Reads s m → BreaksOff ts m rest → Begins (t :: ts) s rest

/-- Tokens begin where others in front of them have been read. -/
theorem Begins.of_spells {ts us : List Token} {s m rest : List Char} (hne : ts ≠ [])
    (hs : Spells ts s m) (h : BreaksOff us m rest) : Begins (ts ++ us) s rest := by
  obtain ⟨t, ts, rfl⟩ := List.exists_cons_of_ne_nil hne
  obtain ⟨k, hk, hts⟩ := hs
  exact .next hk (.append_left hts h)

theorem Begins.breaksOff {ts : List Token} {s rest : List Char} (h : Begins ts s rest) :
    BreaksOff ts s rest := by
  cases h with
  | here hblank => exact .here hblank
  | next hread hrest => exact .next hread hrest

/-! ## single tokens that fail -/

/-- A token that has to come next is missed behind the blanks. -/
theorem rest_of_expect {token s : List Char} {fault : Fault} (h : expect token s = .error fault) :
    fault.rest = skipBlanks s := by
  unfold expect at h
  split at h
  · contradiction
  · obtain rfl := Except.error.inj h
    rfl

/-- A numeral is missed behind the blanks. -/
theorem rest_of_readLength {s : List Char} {fault : Fault} (h : readLength s = .error fault) :
    fault.rest = skipBlanks s := by
  simp only [readLength] at h
  split at h
  · obtain rfl := Except.error.inj h
    rfl
  · contradiction

/-! ## tuples -/

/-- A reader that fails with some fault breaks off in a tree that fits. -/
def Breaks (item : Reader Native) (fits : Tree → Prop) (fault : Fault) : Prop :=
  ∀ {s : List Char}, item s = .error fault →
    ∃ tree : Tree, Begins tree.tokens s fault.rest ∧ tree.Greedy ∧ fits tree

variable {item : Reader Native} {fits : Tree → Prop} {fault : Fault}

/-- A part with a comma behind it, and what follows the comma. -/
theorem separated_cons_comma (comma : Bool) (part : List Token) (rest : List (List Token)) :
    separated (rest.isEmpty || comma) (part :: rest) =
      part ++ .mark .comma :: separated comma rest := by
  cases rest <;> simp [separated]

/-- Where the items of a tuple fail, they break off. -/
theorem breaksOff_of_tupleItems (h : Accepts item fits) (hb : Breaks item fits fault) {fuel : Nat}
    {s : List Char} (hs : tupleItems item fuel s = .error fault) :
    ∃ items comma,
      BreaksOff (separated comma (Tree.tokensAll items) ++ [.mark .closeParen]) s fault.rest ∧
      ∀ t ∈ items, t.Greedy ∧ fits t := by
  induction fuel generalizing s with
  | zero =>
      obtain rfl := Except.error.inj hs
      exact ⟨[], false, .here (.refl s), by simp⟩
  | succ fuel ih =>
      rw [tupleItems] at hs
      split at hs
      · contradiction
      · rcases bind_eq_error.mp hs with hitem | ⟨⟨t, m⟩, ht, hs⟩
        · obtain ⟨tree, hbreak, hgood⟩ := hb hitem
          refine ⟨[tree], false, ?_, by simpa using hgood⟩
          simpa [separated, Tree.tokensAll] using
            hbreak.breaksOff.of_skipBlanks.append_right [.mark .closeParen]
        · obtain ⟨tree, htree⟩ := h ht
          have hspells := (spells_skipBlanks tree.tokens_ne_nil).mp htree.spells
          dsimp only at hs
          split at hs
          · next k hcomma =>
              rcases bind_eq_error.mp hs with hmore | ⟨p, -, hs⟩
              · obtain ⟨items, comma, hbreak, hall⟩ := ih hmore
                refine ⟨tree :: items, (Tree.tokensAll items).isEmpty || comma, ?_, ?_⟩
                · rw [Tree.tokensAll, separated_cons_comma, List.append_assoc, List.cons_append]
                  exact .append_left hspells
                    (.next (reads_mark.mpr (token?_eq_some.mp hcomma)) hbreak)
                · simpa using ⟨⟨htree.greedy, htree.fits⟩, hall⟩
              · contradiction
          · split at hs
            · contradiction
            · obtain rfl := Except.error.inj hs
              refine ⟨[tree], false, ?_, by simpa using ⟨htree.greedy, htree.fits⟩⟩
              simpa [separated, Tree.tokensAll] using
                BreaksOff.append_left hspells (.here (blankUpTo_skipBlanks m))

/-- Where a tuple fails, it breaks off. -/
theorem breaksOff_of_readTuple (h : Accepts item fits) (hb : Breaks item fits fault)
    {s : List Char} (hs : readTuple item s = .error fault) :
    ∃ items comma,
      BreaksOff (separated comma (Tree.tokensAll items) ++ [.mark .closeParen]) s fault.rest ∧
      ∀ t ∈ items, t.Greedy ∧ fits t := by
  rcases bind_eq_error.mp hs with hitems | ⟨p, -, hs⟩
  · exact breaksOff_of_tupleItems h hb hitems
  · contradiction

/-! ## sequences and arrays -/

/-- Where a sequence or array fails, it breaks off. -/
theorem breaksOff_of_readBracketed (h : Accepts item fits) (hb : Breaks item fits fault)
    {s : List Char} (hs : readBracketed item s = .error fault) :
    ∃ element, element.Greedy ∧ fits element ∧
      (BreaksOff (element.tokens ++ [.mark .closeBracket]) s fault.rest ∨
      ∃ length, BreaksOff (element.tokens ++
        [.mark .semicolon, .numeral length, .mark .closeBracket]) s fault.rest) := by
  rcases bind_eq_error.mp hs with hitem | ⟨⟨u, m⟩, hu, hs⟩
  · obtain ⟨element, hbreak, hgreedy, hfits⟩ := hb hitem
    exact ⟨element, hgreedy, hfits, .inl (hbreak.breaksOff.append_right _)⟩
  · obtain ⟨element, helement⟩ := h hu
    refine ⟨element, helement.greedy, helement.fits, ?_⟩
    dsimp only at hs
    split at hs
    · contradiction
    · rcases bind_eq_error.mp hs with hsemi | ⟨k, hsemi, hs⟩
      · rw [rest_of_expect hsemi]
        exact .inl (.append_left helement.spells (.here (blankUpTo_skipBlanks m)))
      · have hreads : (Token.mark .semicolon).Reads m k := reads_mark.mpr (expect_eq_ok.mp hsemi)
        rcases bind_eq_error.mp hs with hlength | ⟨⟨v, j⟩, hlength, hs⟩
        · rw [rest_of_readLength hlength]
          exact .inr ⟨.ofLength 1,
            .append_left helement.spells (.next hreads (.here (blankUpTo_skipBlanks k)))⟩
        · obtain ⟨n, -, hn⟩ := reads_of_readLength hlength
          rcases bind_eq_error.mp hs with hclose | ⟨i, -, hs⟩
          · rw [rest_of_expect hclose]
            exact .inr ⟨n, .append_left helement.spells
              (.next hreads (.next hn (.here (blankUpTo_skipBlanks j))))⟩
          · contradiction

/-! ## paths -/

/-- Where the names of a path fail, they break off. -/
theorem breaksOff_of_pathSegments {fuel : Nat} {s : List Char}
    (hs : pathSegments fuel s = .error fault) :
    ∃ first more, BreaksOff (nameTokens first more) s fault.rest := by
  induction fuel generalizing s with
  | zero =>
      obtain rfl := Except.error.inj hs
      exact ⟨.vec, [], .here (.refl s)⟩
  | succ fuel ih =>
      rw [pathSegments] at hs
      split at hs
      · obtain rfl := Except.error.inj hs
        exact ⟨.vec, [], .here (blankUpTo_skipBlanks s)⟩
      · next name m hname =>
          obtain ⟨w, -, hw⟩ := reads_of_identifier? hname
          split at hs
          · contradiction
          · next k hscope =>
              rcases bind_eq_error.mp hs with hothers | ⟨p, -, hs⟩
              · obtain ⟨first, more, hbreak⟩ := ih hothers
                exact ⟨w, first :: more,
                  .next hw (.next (reads_mark.mpr (token?_eq_some.mp hscope)) hbreak)⟩
              · contradiction

/-- Where an argument fails, it breaks off. -/
theorem breaksOff_of_readArgument (hb : Breaks item fits fault) {s : List Char}
    (hs : readArgument item s = .error fault) :
    ∃ (as : Arguments) (part : List Token), as.parts = [part] ∧ BreaksOff part s fault.rest ∧
      ∀ t ∈ as.types, t.Greedy ∧ fits t := by
  unfold readArgument at hs
  split at hs
  · next k htick =>
      split at hs
      · contradiction
      · obtain rfl := Except.error.inj hs
        refine ⟨.lifetime .vec .nil, _, rfl, ?_, by simp [Arguments.types]⟩
        exact .next (reads_mark.mpr htick) (.here (blankUpTo_skipBlanks k))
  · rcases bind_eq_error.mp hs with hitem | ⟨p, -, hs⟩
    · obtain ⟨tree, hbreak, hgood⟩ := hb hitem
      exact ⟨.type tree .nil, _, rfl, hbreak.breaksOff.of_skipBlanks,
        by simpa [Arguments.types] using hgood⟩
    · contradiction

/-- Where the arguments of a path fail, they break off. -/
theorem breaksOff_of_pathArguments (h : Accepts item fits) (hb : Breaks item fits fault)
    {fuel : Nat} {s : List Char} (hs : pathArguments item fuel s = .error fault) :
    ∃ (as : Arguments) (comma : Bool), as.parts ≠ [] ∧
      BreaksOff (separated comma as.parts ++ [.mark .closeAngle]) s fault.rest ∧
      ∀ t ∈ as.types, t.Greedy ∧ fits t := by
  induction fuel generalizing s with
  | zero =>
      obtain rfl := Except.error.inj hs
      exact ⟨.lifetime .vec .nil, false, by simp [Arguments.parts], .here (.refl s),
        by simp [Arguments.types]⟩
  | succ fuel ih =>
      rw [pathArguments] at hs
      rcases bind_eq_error.mp hs with hgiven | ⟨⟨given, m⟩, hgiven, hs⟩
      · obtain ⟨as, part, hparts, hbreak, hall⟩ := breaksOff_of_readArgument hb hgiven
        refine ⟨as, false, by simp [hparts], ?_, hall⟩
        simpa [hparts, separated] using hbreak.append_right [.mark .closeAngle]
      · obtain ⟨part, hpart, hextend⟩ := spells_of_readArgument h hgiven
        dsimp only at hs
        split at hs
        · contradiction
        · rcases bind_eq_error.mp hs with hcomma | ⟨k, hcomma, hs⟩
          · obtain ⟨as, hparts, -, hall⟩ := hextend .nil (by simp [Arguments.types])
            refine ⟨as, false, by simp [hparts], ?_, hall⟩
            rw [rest_of_expect hcomma]
            simpa [hparts, separated, Arguments.parts] using
              BreaksOff.append_left hpart (.here (blankUpTo_skipBlanks m))
          · split at hs
            · contradiction
            · rcases bind_eq_error.mp hs with hmore | ⟨p, -, hs⟩
              · obtain ⟨rest, comma, hne, hbreak, hrest⟩ := ih hmore
                obtain ⟨as, hparts, -, hall⟩ := hextend rest hrest
                refine ⟨as, comma, by simp [hparts], ?_, hall⟩
                rw [hparts, separated, if_neg (by simp [hne]), List.append_assoc]
                exact .append_left hpart
                  (.next (reads_mark.mpr (expect_eq_ok.mp hcomma)) hbreak)
              · contradiction

/-- Where a path fails, it breaks off. -/
theorem breaksOff_of_readPath (h : Accepts item fits) (hb : Breaks item fits fault)
    {s : List Char} (hs : readPath item s = .error fault) :
    ∃ (rooted : Bool) (first : Word) (more : List Word) (arguments : Arguments) (comma : Bool),
      BreaksOff (Tree.path rooted first more arguments comma).tokens s fault.rest ∧
      ∀ t ∈ arguments.types, t.Greedy ∧ fits t := by
  obtain ⟨rooted, hroot⟩ := spells_root s
  rcases bind_eq_error.mp hs with hnames | ⟨⟨names, m⟩, hnames, hs⟩
  · obtain ⟨first, more, hbreak⟩ := breaksOff_of_pathSegments hnames
    refine ⟨rooted, first, more, .nil, false, ?_, by simp [Arguments.types]⟩
    exact .append_left hroot (hbreak.append_right _)
  · obtain ⟨first, more, hmore, -⟩ := spells_of_pathSegments hnames
    dsimp only at hs
    split at hs
    · contradiction
    · next k hopen =>
        rcases bind_eq_error.mp hs with harguments | ⟨p, -, hs⟩
        · obtain ⟨as, comma, hne, hbreak, hall⟩ := breaksOff_of_pathArguments h hb harguments
          obtain ⟨part, rest, hparts⟩ := List.exists_cons_of_ne_nil hne
          refine ⟨rooted, first, more, as, comma, ?_, hall⟩
          refine .append_left hroot (.append_left hmore ?_)
          rw [hparts, angled, ← hparts]
          exact .next (reads_mark.mpr (token?_eq_some.mp hopen)) hbreak
        · contradiction

/-- A path that breaks off has begun, or nothing of it has been read. -/
theorem BreaksOff.begins_path {rooted comma : Bool} {first : Word} {more : List Word}
    {arguments : Arguments} {s rest : List Char}
    (h : BreaksOff (Tree.path rooted first more arguments comma).tokens s rest) :
    BlankUpTo s rest ∨ Begins (Tree.path rooted first more arguments comma).tokens s rest ∧
      (rooted = false → ∃ m, (Token.word first).Reads s m) := by
  generalize htokens : (Tree.path rooted first more arguments comma).tokens = ts at h ⊢
  cases h with
  | here hblank => exact .inl hblank
  | @next t ts _ m _ hread hrest =>
      refine .inr ⟨.next hread hrest, ?_⟩
      rintro rfl
      obtain ⟨rfl, -⟩ := List.cons.inj htokens
      exact ⟨m, hread⟩

/-! ## references -/

/-- Whether tokens start with a word depends on the first one. -/
theorem startsWith_cons {p : Word → Prop} {t : Token} (ts : List Token) :
    StartsWith p (t :: ts) ↔ StartsWith p [t] := by
  simp [StartsWith]

/-- Tokens that begin behind the place of the keyword begin in front of it too. -/
theorem Begins.of_skipMut {ts : List Token} {s rest : List Char} (h : Begins ts (skipMut s) rest) :
    ∃ mutable, Begins (keyword mutable ++ ts) s rest ∧
      (mutable = false → ¬ StartsWith (fun w => w.chars = Word.mut.chars) ts) := by
  cases h with
  | here hblank hword =>
      have hnone : Spells [] (skipMut s) (skipMut s) := rfl
      obtain ⟨mutable, hkeyword, -⟩ := spells_of_skipMut hnone
      rw [List.append_nil] at hkeyword
      cases mutable with
      | true => exact ⟨true, .of_spells (by simp [keyword]) hkeyword (.here hblank), by simp⟩
      | false =>
          refine ⟨false, .here ?_ hword, ?_⟩
          · rwa [← spells_nil.mp hkeyword] at hblank
          · rintro - ⟨w, us, rfl, -⟩
            exact hword ⟨w, us, rfl, trivial⟩
  | @next t ts _ m _ hread hrest =>
      have hone : Spells [t] (skipMut s) m := ⟨m, hread, rfl⟩
      obtain ⟨mutable, hspells, hmut⟩ := spells_of_skipMut hone
      refine ⟨mutable, ?_, fun hfalse => (startsWith_cons ts).not.mpr (hmut hfalse)⟩
      have hne : keyword mutable ++ [t] ≠ [] := by simp
      simpa using Begins.of_spells hne hspells hrest

/-- Tokens that begin behind the place of a lifetime break off in front of it
too. -/
theorem Begins.of_skipLifetime {ts : List Token} {s rest : List Char}
    (h : Begins ts (skipLifetime s) rest) :
    ∃ lifetime : Lifetime, BreaksOff (lifetime.tokens ++ ts) s rest ∧
      (lifetime = .unnamed → ¬ StartsWith (fun _ => True) ts) := by
  cases h with
  | here hblank hword =>
      unfold skipLifetime at hblank
      split at hblank
      · next m htick =>
          have htick : (Token.mark .tick).Reads s m := reads_mark.mpr htick
          split at hblank
          · next name k hname =>
              obtain ⟨w, -, hw⟩ := reads_of_identifier? hname
              exact ⟨.named w, .next htick (.next hw (.here hblank)), by simp⟩
          · exact ⟨.unnamed, .next htick (.here ((blankUpTo_skipBlanks m).trans hblank)),
              fun _ => hword⟩
      · exact ⟨.absent, .here ((blankUpTo_skipBlanks s).trans hblank), by simp⟩
  | @next t ts _ m _ hread hrest =>
      have hone : Spells [t] (skipLifetime s) m := ⟨m, hread, rfl⟩
      obtain ⟨lifetime, hspells, hunnamed⟩ := spells_of_skipLifetime (by simp) hone
      refine ⟨lifetime, ?_, fun hnone => (startsWith_cons ts).not.mpr (hunnamed hnone)⟩
      simpa using BreaksOff.append_left hspells hrest

/-! ## types -/

/-- A tree fits, unless the fault is that types are nested too deep. -/
def Fault.Allows (fault : Fault) (room : Nat) (tree : Tree) : Prop :=
  fault.cause ≠ .nestingTooDeep → tree.Fits room

/-- Unit, the tree for what has not been begun: it starts with no word. -/
def Tree.unit : Tree := .tuple [] false

theorem Tree.greedy_unit : Tree.unit.Greedy :=
  Tree.forall_nodes.mpr ⟨trivial, by simp [Tree.unit, Tree.children]⟩

theorem Tree.fits_unit (room : Nat) : Tree.unit.Fits (room + 1) :=
  Tree.fits_succ.mpr ⟨trivial, by simp [Tree.unit, Tree.children]⟩

theorem Tree.begins_unit {s rest : List Char} (h : BlankUpTo s rest) :
    Begins Tree.unit.tokens s rest := by
  refine .here h ?_
  rintro ⟨w, ts, hts, -⟩
  simp [Tree.unit, Tree.tokens, separated, Tree.tokensAll] at hts

/-- A tree is allowed if it meets the conditions and what is right below it is
allowed. -/
theorem Tree.allowed_succ {room : Nat} {tree : Tree} (hgreedy : tree.GreedyHere)
    (hopens : tree.OpensHere) (hbelow : ∀ t ∈ tree.children, t.Greedy ∧ fault.Allows room t) :
    tree.Greedy ∧ fault.Allows (room + 1) tree := by
  refine ⟨Tree.forall_nodes.mpr ⟨hgreedy, fun t ht => (hbelow t ht).1⟩, ?_⟩
  intro hcause
  exact Tree.fits_succ.mpr ⟨hopens, fun t ht => (hbelow t ht).2 hcause⟩

/-- What is accepted is allowed. -/
theorem readType_accepts_allowed (fault : Fault) (room : Nat) :
    Accepts (readType room) (fault.Allows room) := by
  intro s r t hs
  obtain ⟨tree, htree⟩ := readType_accepts room hs
  exact ⟨tree, htree.spells, htree.greedy, fun _ => htree.fits, htree.meaning⟩

/-- **Where a type fails, it breaks off in a tree that is allowed.** -/
theorem readType_breaks (fault : Fault) (room : Nat) :
    Breaks (readType room) (fault.Allows room) fault := by
  induction room with
  | zero =>
      intro s hs
      obtain rfl := Except.error.inj hs
      exact ⟨.unit, Tree.begins_unit (.refl s), Tree.greedy_unit, fun h => absurd rfl h⟩
  | succ room ih =>
      intro s hs
      have hread : Accepts (readType room) (fault.Allows room) :=
        readType_accepts_allowed fault room
      have hunit : fault.Allows (room + 1) .unit := fun _ => Tree.fits_unit room
      rw [readType] at hs
      split at hs
      · next hblank =>
          obtain rfl := Except.error.inj hs
          exact ⟨.unit, Tree.begins_unit (hblank ▸ blankUpTo_skipBlanks s), Tree.greedy_unit, hunit⟩
      · next m hamp =>
          obtain ⟨inner, hinner, hgood⟩ := ih hs
          obtain ⟨mutable, hmutable, hmut⟩ := hinner.of_skipMut
          obtain ⟨lifetime, hlifetime, hunnamed⟩ := hmutable.of_skipLifetime
          refine ⟨.reference lifetime mutable inner, .next (reads_mark.mpr hamp) hlifetime, ?_⟩
          exact Tree.allowed_succ ⟨hunnamed, hmut⟩ trivial (by simpa [Tree.children] using hgood)
      · next m hparen =>
          obtain ⟨items, comma, hitems, hall⟩ := breaksOff_of_readTuple hread ih hs
          exact ⟨.tuple items comma, .next (reads_mark.mpr hparen) hitems,
            Tree.allowed_succ trivial trivial hall⟩
      · next m hbracket =>
          have hopen : (Token.mark .openBracket).Reads s m := reads_mark.mpr hbracket
          obtain ⟨element, hgreedy, hallowed, hcases⟩ := breaksOff_of_readBracketed hread ih hs
          have hbelow : ∀ t ∈ [element], t.Greedy ∧ fault.Allows room t := by
            simpa using ⟨hgreedy, hallowed⟩
          rcases hcases with hclose | ⟨length, hclose⟩
          · exact ⟨.sequence element, .next hopen hclose,
              Tree.allowed_succ trivial trivial hbelow⟩
          · exact ⟨.array element length, .next hopen hclose,
              Tree.allowed_succ trivial trivial hbelow⟩
      · next c m _ _ _ hc =>
          split at hs
          · next hstart =>
              obtain ⟨rooted, first, more, arguments, comma, hbreak, hall⟩ :=
                breaksOff_of_readPath hread ih hs
              rw [← hc] at hbreak
              rcases hbreak.of_skipBlanks.begins_path with hblank | ⟨hbegins, hfirst⟩
              · exact ⟨.unit, Tree.begins_unit hblank, Tree.greedy_unit, hunit⟩
              · exact ⟨.path rooted first more arguments comma, hbegins,
                  Tree.allowed_succ trivial (Tree.opensHere_path hc hstart hfirst) hall⟩
          · obtain rfl := Except.error.inj hs
            exact ⟨.unit, Tree.begins_unit (hc ▸ blankUpTo_skipBlanks s), Tree.greedy_unit, hunit⟩

/-- **Where the parser fails, it breaks off** in a tree that is allowed at the
top. -/
theorem breaksOff_of_parseChars {source : List Char} (h : parseChars source = .error fault) :
    ∃ tree : Tree, BreaksOff tree.tokens source fault.rest ∧ tree.Greedy ∧
      fault.Allows maxNesting tree := by
  rcases bind_eq_error.mp h with htype | ⟨⟨t, r⟩, ht, h⟩
  · obtain ⟨tree, hbegins, hgood⟩ := readType_breaks fault maxNesting htype
    exact ⟨tree, hbegins.breaksOff, hgood⟩
  · obtain ⟨tree, htree⟩ := readType_accepts maxNesting ht
    dsimp only at h
    split at h
    · contradiction
    · obtain rfl := Except.error.inj h
      have hnone : BreaksOff [] r (skipBlanks r) := .here (blankUpTo_skipBlanks r)
      refine ⟨tree, ?_, htree.greedy, fun _ => htree.fits⟩
      simpa using hnone.append_left htree.spells

/-! ## places -/

/-- A text is as long as its characters. -/
theorem utf8Length_eq (s : List Char) : utf8Length s = (String.ofList s).utf8ByteSize := by
  induction s with
  | nil => rfl
  | cons c r ih =>
      rw [utf8Length, ih, String.ofList_cons, String.utf8ByteSize_append,
        String.utf8ByteSize_singleton]

/-- The place of a fault is the length of what stands in front of it. -/
theorem Fault.position_within {fault : Fault} {before : List Char} :
    (fault.within (before ++ fault.rest)).position = (String.ofList before).utf8ByteSize := by
  rw [Fault.within, utf8Length_eq, utf8Length_eq, String.ofList_append,
    String.utf8ByteSize_append, Nat.add_sub_cancel]

/-- What the parser fails with is a fault of its reader. -/
theorem parse_eq_error {source : String} {e : ParseError} :
    parse source = .error e ↔
      ∃ fault, parseChars source.toList = .error fault ∧ fault.within source.toList = e := by
  rw [parse]
  cases parseChars source.toList <;> simp

/-- **An error stands at the first wrong place**: its position splits the text
between two characters, and unless types are nested too deep, the text in front
of it can be completed to a type. -/
theorem viable_of_parse_eq_error {source : String} {e : ParseError}
    (h : parse source = .error e) :
    ∃ before after : String, source = before ++ after ∧ e.position = before.utf8ByteSize ∧
      (e.cause.message ≠ "type nesting too deep" →
        ∃ (w : String) (t : Native), parse (before ++ w) = .ok t) := by
  obtain ⟨fault, hfault, rfl⟩ := parse_eq_error.mp h
  obtain ⟨tree, hbreak, hgreedy, hallows⟩ := breaksOff_of_parseChars hfault
  obtain ⟨before, w, r, hsource, -, hspells, hr⟩ := hbreak.completes
  refine ⟨String.ofList before, String.ofList fault.rest, ?_, ?_, ?_⟩
  · rw [← String.ofList_append, ← hsource, String.ofList_toList]
  · rw [hsource, Fault.position_within]
  · intro hmessage
    have hcause : fault.cause ≠ .nestingTooDeep := by
      intro hcause
      exact hmessage (congrArg Fault.Cause.message hcause)
    refine ⟨String.ofList w, tree.meaning, ?_⟩
    rw [← String.ofList_append, parse_eq_ok, String.toList_ofList,
      parseChars_eq_ok hspells hgreedy hr]
    exact ⟨rfl, hallows hcause⟩

set_option maxRecDepth 20000 in
/-- A length is missing behind a character of two bytes: the place is counted in
bytes, and a numeral and the brackets complete the text. -/
theorem viable_of_parse_eq_error_length :
    parse "(é, [u8; x" = .error ⟨10, .expectedLength⟩ ∧
      ∃ before after : String, "(é, [u8; x" = before ++ after ∧ 10 = before.utf8ByteSize ∧
        ("expected array length" ≠ "type nesting too deep" →
          ∃ (w : String) (t : Native), parse (before ++ w) = .ok t) := by
  have h : parse "(é, [u8; x" = .error ⟨10, .expectedLength⟩ := by rfl
  exact ⟨h, viable_of_parse_eq_error h⟩

end DeclGen.Native
