import DeclGen.Proofs.Native.Bytewise
import DeclGen.Proofs.Native.Spacing

/-!
# DeclGen.Proofs.Native.Bytewise.Steps

Sound runs of the parser that keeps a cursor, and its steps up to single tokens.

* `SoundLog`: what is to be said of every event of a run, given those before it;
* `Stands`: the parser stands in front of a text, and its run was sound so far;
* `Gives`: from in front of a text the parser comes back, neither going on forever
  nor panicking, with the outcome of a reader, and it stands in front of what the
  reader leaves.

`Gives.bind` puts steps together.  Everything below it is one lemma for each
step; the lemmas name the reader of `DeclGen.Native.Parser` that does the same.
-/

namespace DeclGen.Native.Bytewise

open Text

/-! ## sound runs -/

/-- The number of calls under way after a step, by the number before. -/
def Step.calls : Step → Nat → Nat
  | enter, n => n + 1
  | leave _ _, n => n - 1
  | _, n => n

/-- The number of calls of `parseType` under way after events. -/
def underway (log : List Event) : Nat := log.foldl (fun n event => event.step.calls n) 0

theorem underway_concat (log : List Event) (event : Event) :
    underway (log ++ [event]) = event.step.calls (underway log) := by
  simp [underway]

/-- What is to be said of a step, by the events before it and the cursor after it:

* a call is turned away only where 64 are under way;
* a call that comes back leaves the depth as it was, and if it succeeds, it has
  passed a character and its type is no higher than the levels left to it;
* a round of a loop has passed a character. -/
def Step.Sound (source : String) (past : List Event) (cursor : Cursor) : Step → Prop
  | move => True
  | enter => True
  | refuse => underway past = 64
  | leave start answer => cursor.depth = start.depth ∧ ∀ t, answer = .ok t →
      Advances source start.position cursor.position ∧ t.height + start.depth ≤ 64
  | round _ start => Advances source start.position cursor.position

/-- What is to be said of an event, by the events before it. -/
structure Event.Sound (source : String) (past : List Event) (event : Event) : Prop where
  /-- The position is a boundary between characters. -/
  boundary : (⟨event.cursor.position⟩ : String.Pos.Raw).IsValid source
  /-- It is not beyond the end. -/
  within : event.cursor.position ≤ source.utf8ByteSize
  /-- The depth is the number of calls under way. -/
  depth : event.cursor.depth = underway (past ++ [event])
  /-- At most 64 calls are under way in each other. -/
  nested : underway (past ++ [event]) ≤ 64
  step : event.step.Sound source past event.cursor

/-- Every event is sound after those before it. -/
def SoundLog (source : String) (log : List Event) : Prop :=
  ∀ past event, past ++ [event] <+: log → event.Sound source past

theorem soundLog_nil (source : String) : SoundLog source [] := by
  intro past event hprefix
  simp at hprefix

/-- A sound run goes on with a sound event. -/
theorem SoundLog.concat {source : String} {log : List Event} {event : Event}
    (h : SoundLog source log) (hevent : event.Sound source log) :
    SoundLog source (log ++ [event]) := by
  intro past last hprefix
  rcases List.prefix_concat_iff.mp hprefix with heq | hprefix
  · obtain ⟨rfl, hlast⟩ := List.append_inj' heq rfl
    obtain rfl := List.singleton_inj.mp hlast
    exact hevent
  · exact h past last hprefix

/-! ## states -/

/-- The parser stands in front of `s` with so many calls under way, and its run
was sound so far. -/
structure Stands (source : String) (depth : Nat) (s : List Char) (state : State) : Prop where
  here : At source state.cursor.position s
  level : state.cursor.depth = depth
  calls : underway state.log = depth
  bound : depth ≤ 64
  sound : SoundLog source state.log

variable {source : String} {depth : Nat} {s r m : List Char} {α β : Type}

/-- A sound step leads on. -/
theorem Stands.take {state : State} (h : Stands source depth s state) {step : Step}
    {cursor : Cursor} {after : Nat} (hhere : At source cursor.position r)
    (hlevel : cursor.depth = after) (hcalls : step.calls depth = after) (hbound : after ≤ 64)
    (hstep : step.Sound source state.log cursor) :
    Stands source after r ⟨cursor, state.log ++ [⟨step, cursor⟩]⟩ := by
  have hunder : underway (state.log ++ [⟨step, cursor⟩]) = after := by
    rw [underway_concat, h.calls, hcalls]
  have hevent : Event.Sound source state.log ⟨step, cursor⟩ :=
    ⟨hhere.isValid, hhere.le_utf8ByteSize, hlevel.trans hunder.symm, hunder.symm ▸ hbound, hstep⟩
  exact ⟨hhere, hlevel, hunder, hbound, h.sound.concat hevent⟩

/-! ## runs in sequence -/

variable {x : Parser α} {k : α → Parser β}

theorem outcome_bind_ok {state next : State} {a : α}
    (h : x.outcome state = some (.ok (.ok a, next))) :
    (x >>= k).outcome state = (k a).outcome next := by
  change (x.outcome state >>= _ : Option _) = _
  rw [h]
  rfl

theorem outcome_bind_error {state next : State} {e : ParseError}
    (h : x.outcome state = some (.ok (.error e, next))) :
    (x >>= k).outcome state = some (.ok (.error e, next)) := by
  change (x.outcome state >>= _ : Option _) = _
  rw [h]
  rfl

/-- The answer in a reader's outcome.  A fault has its place counted from the
start of the text. -/
def answerOf (source : String) : Except Fault (α × List Char) → Except ParseError α
  | .ok (a, _) => .ok a
  | .error fault => .error (fault.within source.toList)

/-- From in front of `s` the parser comes back as a reader with an outcome that is
as `post` says. -/
def Gives (source : String) (depth : Nat) (s : List Char) (x : Parser α)
    (post : Except Fault (α × List Char) → Prop) : Prop :=
  ∀ state, Stands source depth s state → ∃ outcome next r, post outcome ∧
    x.outcome state = some (.ok (answerOf source outcome, next)) ∧
    Stands source depth r next ∧ ∀ a m, outcome = .ok (a, m) → r = m

/-- A failure ends what follows it. -/
theorem Gives.bind {middle : Except Fault (α × List Char) → Prop}
    {post : Except Fault (β × List Char) → Prop} (hx : Gives source depth s x middle)
    (hk : ∀ a r, middle (.ok (a, r)) → Gives source depth r (k a) post)
    (herror : ∀ fault, middle (.error fault) → post (.error fault)) :
    Gives source depth s (x >>= k) post := by
  intro state hstate
  obtain ⟨outcome, next, r, hmiddle, hrun, hnext, hrest⟩ := hx state hstate
  rcases outcome with fault | ⟨a, m⟩
  · exact ⟨.error fault, next, r, herror fault hmiddle, outcome_bind_error hrun, hnext, by simp⟩
  · obtain rfl := hrest a m rfl
    rw [outcome_bind_ok hrun]
    exact hk a r hmiddle next hnext

variable {post : Except Fault (β × List Char) → Prop}

theorem Gives.bind_ok {a : α} (hx : Gives source depth s x (Eq (.ok (a, r))))
    (hk : Gives source depth r (k a) post) : Gives source depth s (x >>= k) post := by
  refine hx.bind ?_ (by simp)
  rintro _ _ ⟨⟩
  exact hk

theorem Gives.bind_error {fault : Fault} (hx : Gives source depth s x (Eq (.error fault)))
    (hpost : post (.error fault)) : Gives source depth s (x >>= k) post := by
  refine hx.bind (by simp) ?_
  rintro _ ⟨⟩
  exact hpost

/-! ## the cursor -/

theorem gives_pure {b : β} (h : post (.ok (b, s))) : Gives source depth s (pure b) post := by
  intro state hstate
  exact ⟨.ok (b, s), state, s, h, rfl, hstate, by simp⟩

theorem gives_fail {cause : Fault.Cause} (h : post (.error ⟨cause, s⟩)) :
    Gives source depth s (fail cause) post := by
  intro state hstate
  refine ⟨.error ⟨cause, s⟩, state, s, h, ?_, hstate, by simp⟩
  rw [answerOf, Fault.within, ← hstate.here.eq_sub]
  rfl

/-- What looks at the cursor sees where the parser stands. -/
theorem gives_cursor_bind {k : Cursor → Parser β}
    (hk : ∀ c : Cursor, At source c.position s → c.depth = depth →
      Gives source depth s (k c) post) :
    Gives source depth s (cursor >>= k) post := by
  intro state hstate
  have hrun : cursor.outcome state = some (.ok (.ok state.cursor, state)) := rfl
  rw [outcome_bind_ok hrun]
  exact hk state.cursor hstate.here hstate.level state hstate

/-- A step at which no call begins or ends. -/
theorem gives_take {step : Step} {cursor : Cursor} (hcalls : ∀ n, step.calls n = n)
    (hhere : At source cursor.position r) (hlevel : cursor.depth = depth)
    (hstep : ∀ past, step.Sound source past cursor) :
    Gives source depth s (take step cursor) (Eq (.ok ((), r))) := by
  intro state hstate
  exact ⟨_, _, r, rfl, rfl, hstate.take hhere hlevel (hcalls depth) hstate.bound (hstep _), by simp⟩

theorem gives_moveTo {position : Nat} (h : At source position r) :
    Gives source depth s (moveTo position) (Eq (.ok ((), r))) :=
  gives_cursor_bind fun _ _ hlevel => gives_take (fun _ => rfl) h hlevel fun _ => trivial

theorem gives_advance (passed : List Char) (hs : s = passed ++ r) :
    Gives source depth s (advance (utf8Length passed)) (Eq (.ok ((), r))) := by
  subst hs
  exact gives_cursor_bind fun _ hhere _ => gives_moveTo hhere.add

/-- A round is over that has left less of the text than there was. -/
theorem gives_endRound {loop : Loop} {start : Cursor} (hstart : At source start.position r)
    (hlength : s.length < r.length) :
    Gives source depth s (endRound loop start) (Eq (.ok ((), s))) :=
  gives_cursor_bind fun _ hhere hlevel => gives_take (fun _ => rfl) hhere hlevel
    fun _ => hstart.advances hhere hlength

theorem gives_slice {slice? : String → Nat → Option String} {text part : String} {position : Nat}
    (h : slice? text position = some part) :
    Gives source depth s (slice slice? text position) (Eq (.ok (part, s))) := by
  rw [slice, h]
  exact gives_pure rfl

theorem gives_rest : Gives source depth s (rest source) (Eq (.ok (String.ofList s, s))) :=
  gives_cursor_bind fun _ hhere _ => gives_slice hhere.sliceFrom?_eq

/-! ## blanks and marks -/

theorem gives_skip : Gives source depth s (skip source) (Eq (.ok ((), skipBlanks s))) := by
  intro state hstate
  have hsuffix : skipBlanks s <:+ source.toList := (skipBlanks_suffix s).trans hstate.here.suffix
  refine Gives.bind_ok gives_rest ?_ state hstate
  dsimp only
  rw [String.toList_ofList]
  exact gives_moveTo (at_sub hsuffix)

theorem gives_peek :
    Gives source depth s (peek source) (Eq (.ok ((skipBlanks s).head?, skipBlanks s))) := by
  refine gives_skip.bind_ok (gives_rest.bind_ok ?_)
  rw [String.toList_ofList]
  exact gives_pure rfl

/-- A character comes next if it is found as a token. -/
theorem head?_skipBlanks {c : Char} :
    (skipBlanks s).head? = some c ↔ ∃ r, token? [c] s = some r := by
  simp only [token?_eq_some, List.head?_eq_some_iff, List.singleton_append]

theorem gives_eat_some {token : List Char} (h : token? token s = some r) :
    Gives source depth s (eat source token) (Eq (.ok (true, r))) := by
  have hskip : skipBlanks s = token ++ r := token?_eq_some.mp h
  refine gives_skip.bind_ok (gives_rest.bind_ok ?_)
  rw [String.toList_ofList, if_pos (List.isPrefixOf_iff_prefix.mpr ⟨r, hskip.symm⟩)]
  exact (gives_advance _ hskip).bind_ok (gives_pure rfl)

theorem gives_eat_none {token : List Char} (h : token? token s = none) :
    Gives source depth s (eat source token) (Eq (.ok (false, skipBlanks s))) := by
  have hskip : ¬ token.isPrefixOf (skipBlanks s) = true := by
    intro hprefix
    rw [token?, if_pos hprefix] at h
    contradiction
  refine gives_skip.bind_ok (gives_rest.bind_ok ?_)
  rw [String.toList_ofList, if_neg hskip]
  exact gives_pure rfl

theorem gives_expect_ok {token : List Char} (h : Native.expect token s = .ok r) :
    Gives source depth s (expect source token) (Eq (.ok ((), r))) :=
  (gives_eat_some (token?_eq_some.mpr (expect_eq_ok.mp h))).bind_ok (gives_pure rfl)

theorem gives_expect_error {token : List Char} {fault : Fault}
    (h : Native.expect token s = .error fault) :
    Gives source depth s (expect source token) (Eq (.error fault)) := by
  rw [Native.expect] at h
  split at h
  · contradiction
  · next hnone =>
      obtain rfl := Except.error.inj h
      exact (gives_eat_none hnone).bind_ok (gives_fail rfl)

/-! ## identifiers -/

theorem gives_identifier_some {name : List Char} (h : identifier? s = some (name, r)) :
    Gives source depth s (identifier source) (Eq (.ok (some name, r))) := by
  obtain ⟨w, rfl, hskip, hend⟩ := reads_of_identifier? h
  obtain ⟨hfirst, hdigit⟩ : isIdentifierChar w.first = true ∧ w.first.isDigit = false := by
    simpa [startsIdentifier] using w.starts
  have hrun : (skipBlanks s).takeWhile isIdentifierChar = w.chars := by
    rw [hskip]
    exact takeWhile_append_of_head (List.forall_mem_cons.mpr ⟨hfirst, w.continues⟩) hend
  have hhead : (skipBlanks s).head? = some w.first := by rw [hskip]; rfl
  have hpart : sliceTo? (String.ofList (skipBlanks s)) (utf8Length w.chars) =
      some (String.ofList w.chars) := by
    rw [hskip, utf8Length_eq, String.ofList_append]
    exact sliceTo?_append _ _
  have hlength : utf8Length w.chars ≠ 0 := mt utf8Length_eq_zero.mp (by simp [Word.chars])
  refine gives_skip.bind_ok (gives_rest.bind_ok ?_)
  simp only [String.toList_ofList, hrun, hhead, hlength, hdigit]
  refine (gives_slice hpart).bind_ok ((gives_advance _ hskip).bind_ok (gives_pure ?_))
  rw [String.toList_ofList]

theorem gives_identifier_none (h : identifier? s = none) :
    Gives source depth s (identifier source) (Eq (.ok (none, skipBlanks s))) := by
  refine gives_skip.bind_ok (gives_rest.bind_ok ?_)
  simp only [String.toList_ofList]
  rw [identifier?] at h
  split at h
  · next hskip =>
      rw [hskip]
      exact gives_pure rfl
  · next c k hskip =>
      have hstart : (isIdentifierChar c && !c.isDigit) = false := by
        split at h
        · contradiction
        · next hc => simpa using hc
      have hnone : (utf8Length ((c :: k).takeWhile isIdentifierChar) = 0 || c.isDigit) = true := by
        cases hc : isIdentifierChar c <;> simp_all [utf8Length]
      rw [hskip, List.head?_cons]
      dsimp only
      rw [if_pos hnone]
      exact gives_pure rfl

theorem gives_expectIdentifier_ok {name : List Char} (cause : Fault.Cause)
    (h : identifier? s = some (name, r)) :
    Gives source depth s (expectIdentifier source cause) (Eq (.ok (name, r))) :=
  (gives_identifier_some h).bind_ok (gives_pure rfl)

theorem gives_expectIdentifier_error (cause : Fault.Cause) (h : identifier? s = none) :
    Gives source depth s (expectIdentifier source cause) (Eq (.error ⟨cause, skipBlanks s⟩)) :=
  (gives_identifier_none h).bind_ok (gives_fail rfl)

/-! ## references -/

theorem gives_skipLifetime :
    Gives source depth s (skipLifetime source) (Eq (.ok ((), Native.skipLifetime s))) := by
  rw [skipLifetime_eq]
  refine gives_peek.bind_ok ?_
  cases htick : token? ['\x27'] s with
  | none =>
      rw [if_neg (by simp [head?_skipBlanks, htick])]
      exact gives_pure rfl
  | some k =>
      rw [if_pos (head?_skipBlanks.mpr ⟨k, htick⟩)]
      refine (gives_advance ['\x27'] (token?_eq_some.mp htick)).bind_ok ?_
      dsimp only
      cases hname : identifier? k with
      | none => exact (gives_identifier_none hname).bind_ok (gives_pure rfl)
      | some name => exact (gives_identifier_some hname).bind_ok (gives_pure rfl)

/-- A word that is not the keyword is read again: the position is set back. -/
theorem gives_skipKeyword :
    Gives source depth s (skipKeyword source "mut".toList) (Eq (.ok ((), skipMut s))) := by
  refine gives_cursor_bind fun start hstart _ => ?_
  rw [skipMut]
  cases hname : identifier? s with
  | none => exact (gives_identifier_none hname).bind_ok (gives_moveTo hstart)
  | some found =>
      refine (gives_identifier_some hname).bind_ok ?_
      dsimp only
      split
      · exact gives_pure rfl
      · exact gives_moveTo hstart

/-! ## lengths -/

theorem gives_parseLength {outcome : Except Fault (UInt64 × List Char)}
    (h : readLength s = outcome) : Gives source depth s (parseLength source) (Eq outcome) := by
  subst h
  refine gives_skip.bind_ok (gives_rest.bind_ok ?_)
  simp only [String.toList_ofList, readLength]
  split
  · exact gives_fail rfl
  · exact (gives_advance _ List.takeWhile_append_dropWhile.symm).bind_ok (gives_pure rfl)

end DeclGen.Native.Bytewise
