import DeclGen.Proofs.Native.Bytewise.Steps
import DeclGen.Proofs.Native.Regular

/-!
# DeclGen.Proofs.Native.Bytewise.Sound

The parser that keeps a cursor gives the answer of the parser on characters, on
every text, and its runs are sound.

It skips the blanks behind a part where it looks for the next token, the readers
only where they read that token.  So it may stand behind blanks that a reader
leaves: `Near` is the outcome of a reader but for these.

* As in `DeclGen.Proofs.Native.Sound` the item reader is a parameter: `Follows`
  is what the lemmas about tuples, sequences and paths need of it.
* A loop goes by induction on the fuel of its reader, more of which there is than
  text.  The loop has no fuel: that it ends is part of `Gives`.
* `gives_parseType` goes by induction on the levels left to a call, and runs
  through every shape of types with one level less.
-/

namespace DeclGen.Native.Bytewise

open Text Source

variable {source : String} {depth : Nat} {s r m : List Char} {α β : Type}

/-! ## blanks that are skipped already -/

/-- Blanks at the front of `r` may be skipped. -/
def Skips (r m : List Char) : Prop := m = r ∨ m = skipBlanks r

theorem Skips.refl (r : List Char) : Skips r r := .inl rfl

theorem skips_skipBlanks (r : List Char) : Skips r (skipBlanks r) := .inr rfl

theorem Skips.skipBlanks_eq (h : Skips r m) : skipBlanks m = skipBlanks r := by
  rcases h with rfl | rfl
  · rfl
  · exact skipBlanks_idem r

theorem Skips.skip (h : Skips r m) : Skips r (skipBlanks m) := .inr h.skipBlanks_eq

theorem Skips.token?_eq (h : Skips r m) (token : List Char) : token? token m = token? token r := by
  rw [token?, token?, h.skipBlanks_eq]

theorem Skips.expect_eq (h : Skips r m) (token : List Char) :
    Native.expect token m = Native.expect token r := by
  rw [Native.expect, Native.expect, h.token?_eq, h.skipBlanks_eq]

theorem Skips.length_le (h : Skips r m) : m.length ≤ r.length := by
  rcases h with rfl | rfl
  · exact Nat.le_refl _
  · exact (skipBlanks_suffix r).length_le

/-- The outcome of a reader, but for blanks at the front of what it leaves. -/
inductive Near : Except Fault (α × List Char) → Except Fault (α × List Char) → Prop where
  | ok {a : α} {r m : List Char} (h : Skips r m) : Near (.ok (a, r)) (.ok (a, m))
  | error {fault : Fault} : Near (.error fault) (.error fault)

theorem Near.refl (outcome : Except Fault (α × List Char)) : Near outcome outcome := by
  rcases outcome with fault | ⟨a, r⟩
  · exact .error
  · exact .ok (.refl r)

variable {x : Parser α} {k : α → Parser β} {outcome : Except Fault (α × List Char)}

theorem Gives.near {a : α} (h : Gives source depth s x (Eq (.ok (a, m)))) (hm : Skips r m) :
    Gives source depth s x (Near (.ok (a, r))) := by
  intro state hstate
  obtain ⟨_, next, l, rfl, hrun⟩ := h state hstate
  exact ⟨_, next, l, .ok hm, hrun⟩

/-- A step is followed as its reader is. -/
theorem Gives.bind_near {f : α × List Char → Except Fault (β × List Char)}
    (hx : Gives source depth s x (Near outcome))
    (hk : ∀ a r m, outcome = .ok (a, r) → Skips r m →
      Gives source depth m (k a) (Near (f (a, r)))) :
    Gives source depth s (x >>= k) (Near (outcome >>= f)) := by
  refine hx.bind ?_ ?_
  · rintro a m ⟨h⟩
    exact hk a _ m rfl h
  · rintro fault ⟨⟩
    exact .error

/-- What is made of the value of a step. -/
theorem Gives.map_near (hx : Gives source depth s x (Near outcome)) (f : α → β) :
    Gives source depth s (do return f (← x)) (Near (do let (a, r) ← outcome; .ok (f a, r))) := by
  refine hx.bind_near ?_
  intro a r m _ hm
  exact gives_pure (.ok hm)

/-! ## names -/

/-- The outcome of a reader with values in front of those that it gives. -/
def prepend (front : List α) (outcome : Except Fault (List α × List Char)) :
    Except Fault (List α × List Char) := do
  let (as, r) ← outcome
  .ok (front ++ as, r)

theorem prepend_nil (outcome : Except Fault (List α × List Char)) :
    prepend [] outcome = outcome := by
  cases outcome <;> rfl

/-- Values put in front one after the other. -/
theorem prepend_bind (front given : List α) (outcome : Except Fault (List α × List Char)) :
    prepend front (do let (as, r) ← outcome; .ok (given ++ as, r)) =
      prepend (front ++ given) outcome := by
  rcases outcome with fault | ⟨as, r⟩
  · rfl
  · exact congrArg (fun all => Except.ok (all, r)) (List.append_assoc front given as).symm

/-- Names are put behind the names before them. -/
theorem gives_parseNames {fuel : Nat} (names : List (List Char)) (hfuel : s.length < fuel) :
    Gives source depth s (parseNames source names)
      (Near (prepend names (pathSegments fuel s))) := by
  induction fuel generalizing s names with
  | zero => omega
  | succ fuel ih =>
      rw [parseNames, pathSegments]
      refine gives_cursor_bind fun start hstart _ => ?_
      cases hname : identifier? s with
      | none => exact (gives_expectIdentifier_error _ hname).bind_error .error
      | some found =>
          obtain ⟨name, r⟩ := found
          have hr := length_lt_of_identifier? hname
          refine (gives_expectIdentifier_ok _ hname).bind_ok ?_
          dsimp only
          cases hscope : token? [':', ':'] r with
          | none =>
              have hskip := (skips_skipBlanks r).length_le
              refine (gives_eat_none hscope).bind_ok
                ((gives_endRound hstart (by omega)).bind_ok ?_)
              exact gives_pure (.ok (skips_skipBlanks r))
          | some l =>
              have hl := length_lt_of_token? hscope (by simp)
              have hmore := ih (s := l) (names ++ [name]) (by omega)
              rw [← prepend_bind] at hmore
              exact (gives_eat_some hscope).bind_ok
                ((gives_endRound hstart (by omega)).bind_ok hmore)

/-! ## the item reader -/

/-- A reader that `parseType` follows, and that takes a character if it succeeds. -/
structure Follows (source : String) (depth : Nat) (item : Reader Native) : Prop where
  gives : ∀ s, Gives source depth s (parseType source) (Near (item s))
  steady : Steady item
  takes : ∀ {s r : List Char} {t : Native}, item s = .ok (t, r) → r.length < s.length

variable {item : Reader Native}

/-! ## tuples -/

theorem gives_itemEnd_comma (h : token? [','] s = some r) :
    Gives source depth s (itemEnd source) (Eq (.ok (true, r))) :=
  (gives_eat_some h).bind_ok (gives_pure rfl)

theorem gives_itemEnd_close (h : token? [','] s = none) (hclose : token? [')'] s = some r) :
    Gives source depth s (itemEnd source) (Eq (.ok (false, skipBlanks s))) := by
  have hpeek : (skipBlanks s).head? = some ')' := head?_skipBlanks.mpr ⟨r, hclose⟩
  refine (gives_eat_none h).bind_ok (gives_peek.bind_ok ?_)
  rw [skipBlanks_idem, if_pos hpeek]
  exact gives_pure rfl

theorem gives_itemEnd_error (h : token? [','] s = none) (hclose : token? [')'] s = none) :
    Gives source depth s (itemEnd source) (Eq (.error ⟨.expectedItemEnd, skipBlanks s⟩)) := by
  have hpeek : (skipBlanks s).head? ≠ some ')' := by simp [head?_skipBlanks, hclose]
  refine (gives_eat_none h).bind_ok (gives_peek.bind_ok ?_)
  rw [skipBlanks_idem, if_neg hpeek]
  exact gives_fail rfl

/-- Items and the comma behind the last of them, put behind other items. -/
def putBehind (items : List Native) (comma : Bool) : List Native × Bool → List Native × Bool
  | ([], _) => (items, comma)
  | (ts, last) => (items ++ ts, last)

/-- The outcome of a reader of items with other items in front. -/
def behind (items : List Native) (comma : Bool)
    (outcome : Except Fault ((List Native × Bool) × List Char)) :
    Except Fault ((List Native × Bool) × List Char) := do
  let (found, r) ← outcome
  .ok (putBehind items comma found, r)

/-- Items put in front one after the other. -/
theorem behind_bind (items : List Native) (comma : Bool) (t : Native)
    (outcome : Except Fault ((List Native × Bool) × List Char)) :
    behind items comma (do let ((ts, last), r) ← outcome; .ok ((t :: ts, ts.isEmpty || last), r)) =
      behind (items ++ [t]) true outcome := by
  rcases outcome with fault | ⟨⟨ts, last⟩, r⟩
  · rfl
  · cases ts <;> simp [behind, putBehind]

/-- What parentheses mean does not depend on a comma in front of all items. -/
theorem ofItems_putBehind_nil (found : List Native × Bool) :
    ofItems (putBehind [] false found) = ofItems found := by
  obtain ⟨_ | ⟨t, ts⟩, last⟩ := found <;> rfl

/-- Items are put behind the items before them. -/
theorem Follows.gives_parseItems (h : Follows source depth item) {fuel : Nat}
    (items : List Native) (comma : Bool) (hfuel : s.length < fuel) :
    Gives source depth s (parseItems source items comma)
      (Near (behind items comma (tupleItems item fuel s))) := by
  induction fuel generalizing s items comma with
  | zero => omega
  | succ fuel ih =>
      rw [parseItems, tupleItems]
      cases hclose : token? [')'] s with
      | some r => exact (gives_eat_some hclose).bind_ok (gives_pure (.refl _))
      | none =>
          refine (gives_eat_none hclose).bind_ok (gives_cursor_bind fun start hstart _ => ?_)
          dsimp only
          rw [behind, bind_assoc]
          refine (h.gives (skipBlanks s)).bind_near fun t r m ht hm => ?_
          have htakes := h.takes ht
          have hskip := (skips_skipBlanks s).length_le
          have hless := hm.length_le
          dsimp only
          -- the reader goes on at `r`, the loop at `m`: they see the same tokens
          rw [← hm.token?_eq, ← hm.token?_eq, ← hm.skipBlanks_eq]
          cases hcomma : token? [','] m with
          | some l =>
              have hl := length_lt_of_token? hcomma (by simp)
              have hmore := ih (s := l) (items ++ [t]) true (by omega)
              rw [← behind_bind] at hmore
              exact (gives_itemEnd_comma hcomma).bind_ok
                ((gives_endRound hstart (by omega)).bind_ok hmore)
          | none =>
              dsimp only
              cases hlast : token? [')'] m with
              | none => exact (gives_itemEnd_error hcomma hlast).bind_error .error
              | some l =>
                  -- the bracket is only seen in this round, the next one passes it
                  have hblank := skips_skipBlanks m
                  have hlower := hblank.length_le
                  have heat : token? [')'] (skipBlanks m) = some l := by
                    rw [hblank.token?_eq, hlast]
                  refine (gives_itemEnd_close hcomma hlast).bind_ok
                    ((gives_endRound hstart (by omega)).bind_ok ?_)
                  rw [parseItems]
                  exact (gives_eat_some heat).bind_ok (gives_pure (.refl _))

/-- A tuple is read as tuples are. -/
theorem Follows.gives_parseTuple (h : Follows source depth item) (hs : skipBlanks s = '(' :: r) :
    Gives source depth s (parseTuple source) (Near (readTuple item r)) := by
  have hitems := (h.gives_parseItems [] false (Nat.lt_succ_self r.length)).map_near ofItems
  rw [behind, bind_assoc] at hitems
  simp only [ok_bind, ofItems_putBehind_nil] at hitems
  rw [parseTuple]
  exact (gives_expect_ok (expect_eq_ok.mpr hs)).bind_ok hitems

/-! ## sequences and arrays -/

/-- A sequence or array is read as they are. -/
theorem Follows.gives_parseBracketed (h : Follows source depth item)
    (hs : skipBlanks s = '[' :: r) :
    Gives source depth s (parseBracketed source) (Near (readBracketed item r)) := by
  rw [parseBracketed]
  refine (gives_expect_ok (expect_eq_ok.mpr hs)).bind_ok ((h.gives r).bind_near ?_)
  intro element l m _ hm
  have hblank := skips_skipBlanks m
  dsimp only
  rw [← hm.token?_eq, ← hm.expect_eq, ← hblank.expect_eq]
  cases hclose : token? [']'] m with
  | some l => exact (gives_eat_some hclose).bind_ok (gives_pure (.refl _))
  | none =>
      refine (gives_eat_none hclose).bind_ok ?_
      dsimp only
      cases hsemi : Native.expect [';'] (skipBlanks m) with
      | error fault => exact (gives_expect_error hsemi).bind_error .error
      | ok l =>
          refine (gives_expect_ok hsemi).bind_ok ?_
          dsimp only [ok_bind]
          cases hlength : readLength l with
          | error fault => exact (gives_parseLength hlength).bind_error .error
          | ok found =>
              obtain ⟨length, j⟩ := found
              refine (gives_parseLength hlength).bind_ok ?_
              dsimp only [ok_bind]
              cases hend : Native.expect [']'] j with
              | error fault => exact (gives_expect_error hend).bind_error .error
              | ok i => exact (gives_expect_ok hend).bind_ok (gives_pure (.refl _))

/-! ## arguments -/

/-- An argument is read as arguments are. -/
theorem Follows.gives_parseArgument (h : Follows source depth item) :
    Gives source depth s (parseArgument source) (Near (readArgument item s)) := by
  rw [parseArgument, readArgument_eq]
  refine gives_peek.bind_ok ?_
  cases htick : token? ['\x27'] s with
  | none =>
      rw [if_neg (by simp [head?_skipBlanks, htick])]
      exact (h.gives (skipBlanks s)).map_near fun t => [t]
  | some r =>
      rw [if_pos (head?_skipBlanks.mpr ⟨r, htick⟩)]
      refine (gives_advance ['\x27'] (token?_eq_some.mp htick)).bind_ok ?_
      dsimp only
      cases hname : identifier? r with
      | none => exact (gives_expectIdentifier_error _ hname).bind_error .error
      | some found => exact (gives_expectIdentifier_ok _ hname).bind_ok (gives_pure (.refl _))

/-- What has to stand behind an argument: the bracket, a comma or both.  The value
says whether the bracket does. -/
def readArgumentEnd : Reader Bool := fun s =>
  match token? ['>'] s with
  | some r => .ok (true, r)
  | none => do
    let r ← Native.expect [','] s
    match token? ['>'] r with
    | some r => .ok (true, r)
    | none => .ok (false, r)

/-- Arguments are one argument with its end, and more of them unless it is the
last. -/
theorem pathArguments_eq (item : Reader Native) (fuel : Nat) (s : List Char) :
    pathArguments item (fuel + 1) s = (do
      let argument ← readArgument item s
      let ending ← readArgumentEnd argument.2
      if ending.1 then .ok (argument.1, ending.2)
      else prepend argument.1 (pathArguments item fuel ending.2)) := by
  rw [pathArguments]
  congr
  funext argument
  obtain ⟨given, r⟩ := argument
  dsimp only
  rw [readArgumentEnd]
  cases token? ['>'] r with
  | some l => rfl
  | none =>
      dsimp only
      cases Native.expect [','] r with
      | error fault => rfl
      | ok l =>
          dsimp only [ok_bind]
          cases token? ['>'] l <;> rfl

/-- The end of an argument takes a character. -/
theorem length_lt_of_readArgumentEnd {ended : Bool} (h : readArgumentEnd s = .ok (ended, r)) :
    r.length < s.length := by
  rw [readArgumentEnd] at h
  split at h
  · next l hclose =>
      obtain ⟨-, rfl⟩ := Prod.mk.inj (Except.ok.inj h)
      exact length_lt_of_token? hclose (by simp)
  · obtain ⟨l, hcomma, h⟩ := bind_eq_ok.mp h
    have hl := length_lt_of_expect hcomma (by simp)
    split at h
    · next j hclose =>
        obtain ⟨-, rfl⟩ := Prod.mk.inj (Except.ok.inj h)
        exact Nat.lt_trans (length_lt_of_token? hclose (by simp)) hl
    · obtain ⟨-, rfl⟩ := Prod.mk.inj (Except.ok.inj h)
      exact hl

theorem gives_argumentEnd :
    Gives source depth s (argumentEnd source) (Near (readArgumentEnd s)) := by
  rw [readArgumentEnd]
  cases hclose : token? ['>'] s with
  | some r => exact (gives_eat_some hclose).bind_ok (gives_pure (.refl _))
  | none =>
      refine (gives_eat_none hclose).bind_ok ?_
      dsimp only
      rw [← (skips_skipBlanks s).expect_eq]
      cases hcomma : Native.expect [','] (skipBlanks s) with
      | error fault => exact (gives_expect_error hcomma).bind_error .error
      | ok r =>
          refine (gives_expect_ok hcomma).bind_ok ?_
          dsimp only [ok_bind]
          cases hend : token? ['>'] r with
          | some l => exact (gives_eat_some hend).near (.refl l)
          | none => exact (gives_eat_none hend).near (skips_skipBlanks r)

theorem Skips.readArgument_eq (h : Skips r m) : readArgument item m = readArgument item r := by
  rw [readArgument, readArgument, h.skipBlanks_eq]

theorem Skips.readArgumentEnd_eq (h : Skips r m) : readArgumentEnd m = readArgumentEnd r := by
  rw [readArgumentEnd, readArgumentEnd, h.token?_eq, h.expect_eq]

/-- Arguments are put behind the arguments before them. -/
theorem Follows.gives_parseArguments (h : Follows source depth item) {fuel : Nat}
    (arguments : List Native) (hfuel : s.length < fuel) (hm : Skips s m) :
    Gives source depth m (parseArguments source arguments)
      (Near (prepend arguments (pathArguments item fuel s))) := by
  induction fuel generalizing s arguments m with
  | zero => omega
  | succ fuel ih =>
      rw [parseArguments, pathArguments_eq, ← hm.readArgument_eq, prepend, bind_assoc]
      refine gives_cursor_bind fun start hstart _ => h.gives_parseArgument.bind_near ?_
      intro given r r' hgiven hr
      dsimp only
      rw [← hr.readArgumentEnd_eq, bind_assoc]
      refine gives_argumentEnd.bind_near ?_
      intro ended l l' hended hl
      have hshort := h.steady.readArgument.shortens hgiven
      have htakes := length_lt_of_readArgumentEnd hended
      have hm' := hm.length_le
      have hr' := hr.length_le
      have hl' := hl.length_le
      refine (gives_endRound hstart (by omega)).bind_ok ?_
      cases ended with
      | true => exact gives_pure (.ok hl)
      | false =>
          have hmore := ih (arguments ++ given) (by omega) hl
          rw [← prepend_bind] at hmore
          exact hmore

/-! ## paths -/

/-- A path is read as paths are. -/
theorem Follows.gives_parsePath (h : Follows source depth item) (hs : skipBlanks s = s) :
    Gives source depth s (parsePath source) (Near (readPath item s)) := by
  have hroot : ∃ found, Gives source depth s (eat source [':', ':'])
      (Eq (.ok (found, (token? [':', ':'] s).getD s))) := by
    cases hscope : token? [':', ':'] s with
    | some r => exact ⟨true, gives_eat_some hscope⟩
    | none => exact ⟨false, by simpa [hs] using gives_eat_none hscope⟩
  obtain ⟨found, heat⟩ := hroot
  rw [parsePath, readPath]
  generalize (token? [':', ':'] s).getD s = start at heat ⊢
  have hnames : Gives source depth start (parseNames source [])
      (Near (pathSegments (start.length + 1) start)) :=
    prepend_nil (pathSegments _ start) ▸ gives_parseNames [] (Nat.lt_succ_self start.length)
  refine heat.bind_ok (hnames.bind_near ?_)
  intro names r m _ hm
  dsimp only
  rw [← hm.token?_eq]
  cases hopen : token? ['<'] m with
  | none => exact (gives_eat_none hopen).bind_ok (gives_pure (.ok hm.skip))
  | some l =>
      have harguments := h.gives_parseArguments [] (Nat.lt_succ_self l.length) (.refl l)
      rw [prepend_nil] at harguments
      exact (gives_eat_some hopen).bind_ok (harguments.map_near _)

/-! ## types -/

/-- A type of any shape is read as types are. -/
theorem gives_parseShape {room : Nat} (h : Follows source depth (readType room)) :
    Gives source depth s (parseShape source) (Near (readType (room + 1) s)) := by
  rw [parseShape]
  refine gives_peek.bind_ok ?_
  cases hs : skipBlanks s with
  | nil =>
      rw [readType, hs]
      exact gives_fail .error
  | cons c r =>
      have hidem : skipBlanks (c :: r) = c :: r := by rw [← hs, skipBlanks_idem]
      by_cases hamp : c = '&'
      · subst hamp
        rw [readType, hs]
        exact (gives_advance ['&'] rfl).bind_ok
          (gives_skipLifetime.bind_ok (gives_skipKeyword.bind_ok (h.gives _)))
      by_cases hparen : c = '('
      · subst hparen
        rw [readType, hs]
        exact h.gives_parseTuple hidem
      by_cases hbracket : c = '['
      · subst hbracket
        rw [readType, hs]
        exact h.gives_parseBracketed hidem
      rw [readType_path hs hamp hparen hbracket, hs, List.head?_cons]
      split
      · contradiction
      · next heq => exact absurd (Option.some.inj heq) hamp
      · next heq => exact absurd (Option.some.inj heq) hparen
      · next heq => exact absurd (Option.some.inj heq) hbracket
      · next heq =>
          obtain rfl := Option.some.inj heq
          split
          · exact h.gives_parsePath hidem
          · exact gives_fail .error

/-! ## calls -/

/-- The state in which a call is let in. -/
def State.entered (state : State) : State :=
  let cursor := { state.cursor with depth := state.cursor.depth + 1 }
  ⟨cursor, state.log ++ [⟨.enter, cursor⟩]⟩

/-- The state in which a call is turned away. -/
def State.refused (state : State) : State :=
  ⟨state.cursor, state.log ++ [⟨.refuse, state.cursor⟩]⟩

/-- The state in which the call that was made at a cursor comes back. -/
def State.left (state : State) (start : Cursor) (answer : Except ParseError Native) : State :=
  let cursor := { state.cursor with depth := state.cursor.depth - 1 }
  ⟨cursor, state.log ++ [⟨.leave start answer, cursor⟩]⟩

theorem outcome_parseType {state next : State} {answer : Except ParseError Native}
    (h : state.cursor.depth < maxNesting)
    (hshape : (parseShape source).outcome state.entered = some (.ok (answer, next))) :
    (parseType source).outcome state = some (.ok (answer, next.left state.cursor answer)) := by
  rw [parseType]
  change (if maxNesting ≤ state.cursor.depth then _ else _ : Parser Native).outcome state = _
  rw [if_neg (Nat.not_le.mpr h)]
  change ((parseShape source).outcome state.entered >>= _ : Option _) = _
  rw [hshape]
  rfl

theorem outcome_parseType_refused {state : State} (h : maxNesting ≤ state.cursor.depth) :
    (parseType source).outcome state =
      some (.ok (.error ⟨state.cursor.position, .nestingTooDeep⟩, state.refused)) := by
  rw [parseType]
  change (if maxNesting ≤ state.cursor.depth then _ else _ : Parser Native).outcome state = _
  rw [if_pos h]
  rfl

theorem Stands.entered {state : State} (h : Stands source depth s state) (hdepth : depth < 64) :
    Stands source (depth + 1) s state.entered :=
  h.take h.here (congrArg (· + 1) h.level) rfl hdepth trivial

theorem Stands.refused {state : State} (h : Stands source 64 s state) :
    Stands source 64 s state.refused :=
  h.take h.here h.level rfl h.bound h.calls

theorem Stands.left {state : State} (h : Stands source (depth + 1) s state) {start : Cursor}
    {answer : Except ParseError Native} (hstart : start.depth = depth)
    (hanswer : ∀ t, answer = .ok t →
      Advances source start.position state.cursor.position ∧ t.height + start.depth ≤ 64) :
    Stands source depth s (state.left start answer) := by
  have hlevel : state.cursor.depth - 1 = depth := by rw [h.level, Nat.add_sub_cancel]
  exact h.take h.here hlevel rfl (Nat.le_of_succ_le h.bound) ⟨hlevel.trans hstart.symm, hanswer⟩

/-- A type is no higher than the levels left to it. -/
theorem height_le_of_readType {room : Nat} {t : Native} (h : readType room s = .ok (t, r)) :
    t.height ≤ room := by
  obtain ⟨tree, htree⟩ := readType_accepts room h
  exact (regularWithin_of_stands htree).2

/-- A call reads what a type with the levels left to it reads. -/
theorem gives_parseType {room : Nat} (hroom : depth + room = 64) :
    Gives source depth s (parseType source) (Near (readType room s)) := by
  induction room generalizing depth s with
  | zero =>
      -- no level is left, so the call is turned away as the reader without fuel fails
      obtain rfl : depth = 64 := hroom
      intro state hstate
      refine ⟨.error ⟨.nestingTooDeep, s⟩, state.refused, s, .error, ?_, hstate.refused, by simp⟩
      rw [outcome_parseType_refused (Nat.le_of_eq hstate.level.symm), hstate.here.eq_sub]
      rfl
  | succ room ih =>
      have hitem : Follows source (depth + 1) (readType room) :=
        ⟨fun s => ih (by omega), readType_steady room, length_lt_of_readType⟩
      intro state hstate
      have hdepth : depth < 64 := by omega
      obtain ⟨outcome, next, m, hnear, hrun, hnext, hrest⟩ :=
        gives_parseShape hitem state.entered (hstate.entered hdepth)
      refine ⟨outcome, next.left state.cursor (answerOf source outcome), m, hnear,
        outcome_parseType (hstate.level ▸ hdepth) hrun, hnext.left hstate.level ?_, hrest⟩
      -- what `leave` has to record of an answer that is a type
      intro t ht
      generalize hread : readType (room + 1) s = read at hnear
      cases hnear with
      | error => contradiction
      | ok hskip =>
          obtain rfl := Except.ok.inj ht
          obtain rfl := hrest _ _ rfl
          have htakes := length_lt_of_readType hread
          have hheight := height_le_of_readType hread
          have hless := hskip.length_le
          have hlevel := hstate.level
          exact ⟨hstate.here.advances hnext.here (by omega), by omega⟩

/-! ## whole texts -/

/-- A whole text is read as the parser on characters reads it. -/
theorem gives_parseWhole (source : String) :
    Gives source 0 source.toList (parseWhole source)
      (fun outcome => answerOf source outcome = Native.parse source) := by
  rw [Native.parse, parseChars, maxNesting]
  refine (gives_parseType (Nat.zero_add 64)).bind ?_ ?_
  · intro t m hnear
    generalize readType 64 source.toList = read at hnear
    obtain @⟨_, r, _, hm⟩ := hnear
    refine gives_skip.bind_ok (gives_cursor_bind fun c hhere _ => ?_)
    have hend := hhere.add_utf8Length
    rw [hm.skipBlanks_eq] at hend ⊢
    dsimp only [ok_bind]
    cases hrest : skipBlanks r with
    | nil =>
        rw [hrest, utf8Length] at hend
        rw [if_neg (by omega)]
        exact gives_pure rfl
    | cons d l =>
        have hpos : utf8Length (skipBlanks r) ≠ 0 := mt utf8Length_eq_zero.mp (by simp [hrest])
        rw [if_pos (by omega)]
        exact gives_fail rfl
  · intro fault hnear
    generalize readType 64 source.toList = read at hnear
    obtain ⟨⟩ := hnear
    rfl

/-- **Every run ends, and every step of it is sound**: the parser neither goes on
forever nor slices the text within a character or beyond its end, and it gives
the answer of the parser on characters.  At every step the position is a boundary
between characters; a call that succeeds has passed a character and leaves the
depth as it was; a round of a loop has passed a character; at most 64 calls are
under way in each other; all of them have come back in the end, and no type is
higher than 64. -/
theorem parse_ends_soundly (source : String) :
    (∃ state, parse source = some (.ok (Native.parse source, state)) ∧
      SoundLog source state.log ∧ underway state.log = 0) ∧
    ∀ t, Native.parse source = .ok t → t.height ≤ 64 := by
  have hstart : Stands source 0 source.toList ⟨⟨0, 0⟩, []⟩ :=
    ⟨at_zero source, rfl, rfl, Nat.zero_le 64, soundLog_nil source⟩
  obtain ⟨outcome, next, r, hanswer, hrun, hnext, -⟩ := gives_parseWhole source _ hstart
  refine ⟨⟨next, hanswer ▸ hrun, hnext.sound, hnext.calls⟩, ?_⟩
  intro t ht
  exact (regularWithin_of_parse ht).2

end DeclGen.Native.Bytewise
