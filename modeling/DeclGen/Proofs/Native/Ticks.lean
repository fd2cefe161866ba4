import DeclGen.Proofs.Native.Viable

/-!
# DeclGen.Proofs.Native.Ticks

The ticks in the text of a type.

1. A tick in an accepted text is a token of its tree, since no other token has
   the character and no blank is one (`exists_tick_of_spells`).
2. Among the tokens of a tree a tick stands in front of the name of a lifetime;
   a reference alone can do without the name, and then its type does not start
   with a word (`Tree.ticksPlaced`).

The arguments of a path have no such freedom: there a tick without a name is a
fault.
-/

namespace DeclGen.Native

open Text

/-! ## ticks among tokens -/

/-- The marks that a type can start with. -/
def openers : List Mark := [.ampersand, .openParen, .openBracket, .scope]

/-- A tick stands in front of a word, or between an ampersand and a mark that a
type can start with. -/
def TickPlaced (before behind : List Token) : Prop :=
  StartsWith (fun _ => True) behind ∨
    (∃ us, before = us ++ [.mark .ampersand]) ∧
      ∃ m ∈ openers, ∃ rest, behind = .mark m :: rest

/-- All ticks among tokens stand so. -/
def TicksPlaced (ts : List Token) : Prop :=
  ∀ before behind, ts = before ++ .mark .tick :: behind → TickPlaced before behind

/-- More tokens on either side do not matter. -/
theorem TickPlaced.extend {before behind : List Token} (h : TickPlaced before behind)
    (us vs : List Token) : TickPlaced (us ++ before) (behind ++ vs) := by
  rcases h with ⟨w, rest, rfl, -⟩ | ⟨⟨ts, rfl⟩, m, hm, rest, rfl⟩
  · exact .inl ⟨w, rest ++ vs, rfl, trivial⟩
  · exact .inr ⟨⟨us ++ ts, (List.append_assoc _ _ _).symm⟩, m, hm, rest ++ vs, rfl⟩

theorem TicksPlaced.append {ts us : List Token} (hts : TicksPlaced ts) (hus : TicksPlaced us) :
    TicksPlaced (ts ++ us) := by
  intro before behind h
  rcases List.append_eq_append_iff.mp h with ⟨k, rfl, hk⟩ | ⟨k, hk, hbehind⟩
  · simpa using (hus k behind hk).extend ts []
  · match k with
    | [] => simpa [hk] using (hus [] behind hbehind.symm).extend ts []
    | t :: k =>
        obtain ⟨rfl, rfl⟩ := List.cons.inj hbehind
        exact (hts before k hk).extend [] us

/-- Without ticks there is nothing to show. -/
theorem ticksPlaced_of_not_mem {ts : List Token} (h : Token.mark .tick ∉ ts) : TicksPlaced ts :=
  fun before _ heq => absurd (heq ▸ List.mem_append_right before List.mem_cons_self) h

theorem ticksPlaced_nil : TicksPlaced [] := ticksPlaced_of_not_mem (by simp)

/-- One token in front, which is no tick. -/
theorem TicksPlaced.cons {t : Token} {ts : List Token} (ht : t ≠ .mark .tick)
    (hts : TicksPlaced ts) : TicksPlaced (t :: ts) := by
  have hone : TicksPlaced [t] := ticksPlaced_of_not_mem (by simpa using ht.symm)
  exact hone.append hts

/-- Tokens stay placed between other tokens, if these are no ticks. -/
theorem TicksPlaced.enclose {t : Token} {ts us : List Token} (h : TicksPlaced ts)
    (ht : t ≠ .mark .tick) (hus : Token.mark .tick ∉ us) : TicksPlaced (t :: (ts ++ us)) :=
  (h.append (ticksPlaced_of_not_mem hus)).cons ht

/-- A tick with a name. -/
theorem ticksPlaced_named (name : Word) : TicksPlaced [.mark .tick, .word name] := by
  intro before behind h
  match before with
  | [] =>
      obtain ⟨-, rfl⟩ := List.cons.inj h
      exact .inl ⟨name, [], rfl, trivial⟩
  | t :: before =>
      have htick : Token.mark .tick ∈ [Token.word name] := by
        rw [(List.cons.inj h).2]
        exact List.mem_append_right _ List.mem_cons_self
      simp at htick

/-- The tick of a reference without a name. -/
theorem TicksPlaced.unnamed {m : Mark} (hm : m ∈ openers) {rest : List Token}
    (h : TicksPlaced (.mark m :: rest)) :
    TicksPlaced (.mark .ampersand :: .mark .tick :: .mark m :: rest) := by
  intro before behind heq
  match before with
  | [] => simp at heq
  | [t] =>
      simp only [List.cons_append, List.nil_append, List.cons.injEq] at heq
      obtain ⟨rfl, -, rfl⟩ := heq
      exact .inr ⟨⟨[], rfl⟩, m, hm, rest, rfl⟩
  | t :: u :: before =>
      obtain ⟨-, heq⟩ := List.cons.inj heq
      obtain ⟨-, heq⟩ := List.cons.inj heq
      simpa using (h before behind heq).extend [t, u] []

theorem ticksPlaced_separated (comma : Bool) {parts : List (List Token)}
    (h : ∀ part ∈ parts, TicksPlaced part) : TicksPlaced (separated comma parts) := by
  induction parts with
  | nil => exact ticksPlaced_nil
  | cons part rest ih =>
      obtain ⟨hpart, hrest⟩ := List.forall_mem_cons.mp h
      rw [separated]
      refine hpart.append ?_
      split
      · exact ticksPlaced_nil
      · exact (ih hrest).cons (by simp)

/-! ## ticks in trees -/

/-- A type starts with a word or with one of a few marks. -/
theorem Tree.startsWith_or (tree : Tree) :
    StartsWith (fun _ => True) tree.tokens ∨
      ∃ m ∈ openers, ∃ rest, tree.tokens = .mark m :: rest := by
  cases tree with
  | reference lifetime mutable inner => exact .inr ⟨.ampersand, by decide, _, rfl⟩
  | tuple items comma => exact .inr ⟨.openParen, by decide, _, rfl⟩
  | sequence element => exact .inr ⟨.openBracket, by decide, _, rfl⟩
  | array element length => exact .inr ⟨.openBracket, by decide, _, rfl⟩
  | path rooted first more arguments comma =>
      cases rooted with
      | true => exact .inr ⟨.scope, by decide, _, rfl⟩
      | false => exact .inl ⟨first, _, rfl, trivial⟩

/-- An argument is a lifetime, which has a name, or a type. -/
theorem Arguments.mem_parts {as : Arguments} {part : List Token} (h : part ∈ as.parts) :
    (∃ name, part = [.mark .tick, .word name]) ∨ ∃ t ∈ as.types, part = t.tokens := by
  induction as using Arguments.types.induct with
  | case1 => simp [Arguments.parts] at h
  | case2 name rest ih =>
      rcases List.mem_cons.mp h with rfl | h
      · exact .inl ⟨name, rfl⟩
      · exact ih h
  | case3 tree rest ih =>
      rcases List.mem_cons.mp h with rfl | h
      · exact .inr ⟨tree, List.mem_cons_self, rfl⟩
      · rcases ih h with hname | ⟨t, ht, heq⟩
        · exact .inl hname
        · exact .inr ⟨t, List.mem_cons_of_mem tree ht, heq⟩

theorem tick_not_mem_nameTokens (first : Word) (more : List Word) :
    Token.mark .tick ∉ nameTokens first more := by
  simp [nameTokens]

/-- The ticks of a reference stand as they have to if those of its type do. -/
theorem ticksPlaced_reference {lifetime : Lifetime} {mutable : Bool} {inner : Tree}
    (hgreedy : (Tree.reference lifetime mutable inner).GreedyHere)
    (hinner : TicksPlaced inner.tokens) :
    TicksPlaced (Tree.reference lifetime mutable inner).tokens := by
  have hrest : TicksPlaced (keyword mutable ++ inner.tokens) := by
    refine TicksPlaced.append (ticksPlaced_of_not_mem ?_) hinner
    cases mutable <;> simp [keyword]
  rw [Tree.tokens]
  cases lifetime with
  | absent => exact hrest.cons (by simp)
  | named name => exact ((ticksPlaced_named name).append hrest).cons (by simp)
  | unnamed =>
      -- neither the keyword nor a word follows, or it would be the name
      have hword := hgreedy.1 rfl
      cases mutable with
      | true => exact absurd ⟨.mut, inner.tokens, rfl, trivial⟩ hword
      | false =>
          rcases inner.startsWith_or with hstart | ⟨m, hm, rest, heq⟩
          · exact absurd hstart hword
          · have hopened : TicksPlaced (.mark m :: rest) := heq ▸ hrest
            simpa [Lifetime.tokens, keyword, heq] using hopened.unnamed hm

/-- **The ticks of a tree**: each stands in front of a word, or between an
ampersand and a mark. -/
theorem Tree.ticksPlaced {n : Nat} {tree : Tree} (hn : tree.nesting ≤ n) (h : tree.Greedy) :
    TicksPlaced tree.tokens := by
  induction n generalizing tree with
  | zero => exact absurd tree.nesting_pos (Nat.not_lt.mpr hn)
  | succ n ih =>
      obtain ⟨hgreedy, hbelow⟩ := Tree.forall_nodes.mp h
      have hchildren : ∀ t ∈ tree.children, TicksPlaced t.tokens :=
        fun t ht => ih (Tree.nesting_le_succ.mp hn t ht) (hbelow t ht)
      cases tree with
      | reference lifetime mutable inner =>
          exact ticksPlaced_reference hgreedy (hchildren inner List.mem_cons_self)
      | tuple items comma =>
          have hitems : ∀ part ∈ Tree.tokensAll items, TicksPlaced part := by
            rw [Tree.tokensAll_eq_map]
            exact List.forall_mem_map.mpr hchildren
          exact (ticksPlaced_separated comma hitems).enclose (by simp) (by simp)
      | sequence element =>
          exact (hchildren element List.mem_cons_self).enclose (by simp) (by simp)
      | array element length =>
          exact (hchildren element List.mem_cons_self).enclose (by simp) (by simp)
      | path rooted first more arguments comma =>
          have hroot : TicksPlaced (root rooted) := by
            cases rooted <;> exact ticksPlaced_of_not_mem (by simp [root])
          have hnames := ticksPlaced_of_not_mem (tick_not_mem_nameTokens first more)
          have hparts : ∀ part ∈ arguments.parts, TicksPlaced part := by
            intro part hpart
            rcases Arguments.mem_parts hpart with ⟨name, rfl⟩ | ⟨t, ht, rfl⟩
            · exact ticksPlaced_named name
            · exact hchildren t ht
          refine hroot.append (hnames.append ?_)
          cases hangled : arguments.parts with
          | nil => exact ticksPlaced_nil
          | cons part rest =>
              rw [hangled] at hparts
              exact (ticksPlaced_separated comma hparts).enclose (by simp) (by simp)

/-! ## ticks in texts -/

/-- Only the tick has the character. -/
theorem Token.eq_tick_of_mem_chars {t : Token} (h : '\x27' ∈ t.chars) : t = .mark .tick := by
  cases t with
  | mark m => cases m <;> simp_all [Token.chars]
  | word w =>
      have hfirst : isIdentifierChar w.first = true := (Bool.and_eq_true_iff.mp w.starts).1
      have hchars : ∀ c ∈ w.chars, isIdentifierChar c = true :=
        List.forall_mem_cons.mpr ⟨hfirst, w.continues⟩
      exact absurd (hchars _ h) (by decide)
  | numeral n => exact absurd (n.decimal _ h) (by decide)

/-- A character that stands in a text stands behind a part without it. -/
theorem exists_eq_append_cons {α : Type} {c : α} {u m before behind : List α} (hu : c ∉ u)
    (h : u ++ m = before ++ c :: behind) : ∃ k, m = k ++ c :: behind := by
  rcases List.append_eq_append_iff.mp h with ⟨k, -, hk⟩ | ⟨k, hk, hbehind⟩
  · exact ⟨k, hk⟩
  · match k with
    | [] => exact ⟨[], hbehind.symm⟩
    | d :: k =>
        obtain ⟨rfl, -⟩ := List.cons.inj hbehind
        exact absurd (hk ▸ List.mem_append_right before List.mem_cons_self) hu

/-- **A tick in a text that spells tokens is one of them.** -/
theorem exists_tick_of_spells {ts : List Token} {s r before behind : List Char}
    (h : Spells ts s r) (hr : skipBlanks r = []) (hs : s = before ++ '\x27' :: behind) :
    ∃ us vs m, ts = us ++ .mark .tick :: vs ∧ Spells us s m ∧ skipBlanks m = '\x27' :: behind ∧
      Spells vs behind r := by
  induction ts generalizing s before with
  | nil =>
      obtain rfl : s = r := h
      rw [hs, skipBlanks_append_cons (by decide)] at hr
      simp at hr
  | cons t ts ih =>
      obtain ⟨m, hread, hts⟩ := h
      have hskip : skipBlanks s = skipBlanks before ++ '\x27' :: behind := by
        rw [hs, skipBlanks_append_cons (by decide)]
      have hchars : t.chars ++ m = skipBlanks before ++ '\x27' :: behind := hread.1.symm.trans hskip
      -- a tick behind this token is one of the others
      have hlater : (∃ k, m = k ++ '\x27' :: behind) →
          ∃ us vs m, t :: ts = us ++ .mark .tick :: vs ∧ Spells us s m ∧
            skipBlanks m = '\x27' :: behind ∧ Spells vs behind r := by
        rintro ⟨k, hk⟩
        obtain ⟨us, vs, j, rfl, hus, hj, hvs⟩ := ih hts hk
        exact ⟨t :: us, vs, j, rfl, ⟨m, hread, hus⟩, hj, hvs⟩
      by_cases ht : '\x27' ∈ t.chars
      · obtain rfl := Token.eq_tick_of_mem_chars ht
        cases hbefore : skipBlanks before with
        | nil =>
            rw [hbefore] at hchars hskip
            obtain rfl : m = behind := (List.cons.inj hchars).2
            exact ⟨[], ts, s, rfl, rfl, hskip, hts⟩
        | cons c k =>
            rw [hbefore] at hchars
            exact hlater ⟨k, (List.cons.inj hchars).2⟩
      · exact hlater (exists_eq_append_cons ht hchars)

/-- What follows tokens is the end of the text. -/
theorem suffix_of_spells {ts : List Token} {s r : List Char} (h : Spells ts s r) : r <:+ s := by
  induction ts generalizing s with
  | nil =>
      obtain rfl : s = r := h
      exact List.suffix_refl s
  | cons t ts ih =>
      obtain ⟨m, hread, hts⟩ := h
      obtain ⟨front, rfl, -⟩ := hread.replace
      exact (ih hts).trans (List.suffix_append front m)

/-- The character of an ampersand stands in front of what follows it. -/
theorem exists_ampersand_of_spells {us : List Token} {s m : List Char}
    (h : Spells (us ++ [.mark .ampersand]) s m) : ∃ before, s = before ++ '&' :: m := by
  obtain ⟨k, hus, j, hj, rfl⟩ := spells_append.mp h
  obtain ⟨before, rfl⟩ := suffix_of_spells hus
  obtain ⟨gap, hgap, -⟩ := blankUpTo_skipBlanks k
  rw [reads_mark.mp hj] at hgap
  exact ⟨before ++ gap, by rw [hgap]; simp⟩

/-! ## named ticks -/

/-- An identifier comes next, behind any blanks. -/
def NamedNext (s : List Char) : Prop := ∃ w r, (Token.word w).Reads s r

theorem namedNext_iff {s : List Char} : NamedNext s ↔ (identifier? s).isSome = true := by
  constructor
  · rintro ⟨w, r, h⟩
    rw [identifier?_of_reads h]
    rfl
  · intro h
    obtain ⟨⟨name, r⟩, hname⟩ := Option.isSome_iff_exists.mp h
    obtain ⟨w, -, hw⟩ := reads_of_identifier? hname
    exact ⟨w, r, hw⟩

instance : DecidablePred NamedNext := fun _ => decidable_of_iff' _ namedNext_iff

/-- Every tick in a text is followed by an identifier. -/
def TicksNamed (s : List Char) : Prop :=
  ∀ before behind, s = before ++ '\x27' :: behind → NamedNext behind

/-- Every tick that comes next behind an ampersand is followed by an identifier. -/
def ReferencesNamed (s : List Char) : Prop :=
  ∀ before r behind, s = before ++ '&' :: r → (Token.mark .tick).Reads r behind → NamedNext behind

theorem TicksNamed.referencesNamed {s : List Char} (h : TicksNamed s) : ReferencesNamed s := by
  intro before r behind hs hr
  obtain ⟨gap, hgap, -⟩ := blankUpTo_skipBlanks r
  rw [reads_mark.mp hr] at hgap
  exact h (before ++ '&' :: gap) behind (by rw [hs, hgap]; simp)

/-- The references of a text are told character by character. -/
theorem referencesNamed_cons {c : Char} {s : List Char} :
    ReferencesNamed (c :: s) ↔
      (c = '&' → ∀ behind ∈ token? ['\x27'] s, NamedNext behind) ∧ ReferencesNamed s := by
  have htoken : ∀ behind, behind ∈ token? ['\x27'] s ↔ (Token.mark .tick).Reads s behind :=
    fun behind => by rw [Option.mem_def, token?_eq_some, reads_mark, Mark.chars]
  simp only [htoken]
  constructor
  · intro h
    exact ⟨fun hc behind => h [] s behind (hc ▸ rfl),
      fun before r behind hs => h (c :: before) r behind (hs ▸ rfl)⟩
  · rintro ⟨hfirst, hrest⟩ before r behind hs
    match before with
    | [] =>
        obtain ⟨rfl, rfl⟩ := List.cons.inj hs
        exact hfirst rfl behind
    | d :: before => exact hrest before r behind (List.cons.inj hs).2

instance decidableReferencesNamed : DecidablePred ReferencesNamed
  | [] => isTrue fun _ _ _ h => by simp at h
  | _ :: s =>
    have := decidableReferencesNamed s
    decidable_of_iff' _ referencesNamed_cons

/-- Where a tick stands in an accepted text. -/
theorem tick_of_parse {source : String} {t : Native} (h : parse source = .ok t)
    {before behind : List Char} (hs : source.toList = before ++ '\x27' :: behind) :
    NamedNext behind ∨
      (∃ front r, source.toList = front ++ '&' :: r ∧ (Token.mark .tick).Reads r behind) ∧
        ∃ m ∈ openers, ∃ r, (Token.mark m).Reads behind r := by
  obtain ⟨tree, r, htree, hr⟩ := stands_of_parseChars (parse_eq_ok.mp h)
  obtain ⟨us, vs, m, heq, hus, hm, hvs⟩ := exists_tick_of_spells htree.spells hr hs
  rcases Tree.ticksPlaced (Nat.le_refl _) htree.greedy us vs heq with
    ⟨w, rest, rfl, -⟩ | ⟨⟨ts, rfl⟩, mark, hmark, rest, rfl⟩
  · obtain ⟨k, hk, -⟩ := hvs
    exact .inl ⟨w, k, hk⟩
  · obtain ⟨front, hfront⟩ := exists_ampersand_of_spells hus
    obtain ⟨k, hk, -⟩ := hvs
    exact .inr ⟨⟨front, m, hfront, reads_mark.mpr hm⟩, mark, hmark, k, hk⟩

/-- **Which ticks have names.**  In an accepted text every tick is followed by an
identifier if and only if those of the references are; so a text in which these
have names is a fault if any other tick has none.  A type behind a tick without
a name starts with one of the marks `&`, `(`, `[` and `::`. -/
theorem ticks_named_iff (source : String) :
    (∀ t, parse source = .ok t →
        (TicksNamed source.toList ↔ ReferencesNamed source.toList)) ∧
      (ReferencesNamed source.toList → ¬ TicksNamed source.toList →
        ∃ e, parse source = .error e) ∧
      ∀ t, parse source = .ok t → ∀ before behind,
        source.toList = before ++ '\x27' :: behind → ¬ NamedNext behind →
          ∃ m ∈ openers, ∃ r, (Token.mark m).Reads behind r := by
  have hiff : ∀ t, parse source = .ok t →
      (TicksNamed source.toList ↔ ReferencesNamed source.toList) := by
    refine fun t h => ⟨TicksNamed.referencesNamed, fun hnamed before behind hs => ?_⟩
    rcases tick_of_parse h hs with hnext | ⟨⟨front, r, hfront, hr⟩, -⟩
    · exact hnext
    · exact hnamed front r behind hfront hr
  refine ⟨hiff, fun hnamed hnot => ?_, fun t h before behind hs hnext => ?_⟩
  · cases h : parse source with
    | error e => exact ⟨e, rfl⟩
    | ok t => exact absurd ((hiff t h).mpr hnamed) hnot
  · exact ((tick_of_parse h hs).resolve_left hnext).2

set_option maxRecDepth 20000 in
/-- Names behind an ampersand and among arguments. -/
theorem ticks_named_iff_view :
    let source := "& 'a mut View<' b, &'static [u8]>"
    (∃ t, parse source = .ok t) ∧ TicksNamed source.toList := by
  have hparse : parse "& 'a mut View<' b, &'static [u8]>" =
      .ok (named "View" [sequence (primitive .u8)]) := by rfl
  have hnamed : ReferencesNamed "& 'a mut View<' b, &'static [u8]>".toList := by decide
  exact ⟨⟨_, hparse⟩, ((ticks_named_iff _).1 _ hparse).mpr hnamed⟩

set_option maxRecDepth 20000 in
/-- A reference can do without the name, but an argument cannot. -/
theorem not_ticksNamed_of_reference :
    parse "&'[u8]" = .ok (sequence (primitive .u8)) ∧ ¬ TicksNamed "&'[u8]".toList ∧
      parse "View<'>" = .error ⟨6, .expectedLifetime⟩ := by
  refine ⟨by rfl, fun h => ?_, by rfl⟩
  have hnext : NamedNext "[u8]".toList := h ['&'] _ rfl
  exact absurd hnext (by decide)

end DeclGen.Native
