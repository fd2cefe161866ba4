import DeclGen.Pattern
import DeclGen.Proofs.Pattern.Matching
import DeclGen.Proofs.Pattern.Sound

/-!
# DeclGen.Proofs.Pattern.Whole

A pattern put into a group between the two ends of the text, as in `^(?:a|b)$`.

1. The group is read up to a closing bracket.  Either this is the bracket behind
   the pattern, and then the pattern is read as it is on its own
   (`parse?_of_enclosed`); or the pattern has a bracket that closes the group,
   behind a part of it that is a pattern (`ClosesGroup`).
2. So the pattern is valid on its own if and only if it does not close the group
   (`isValid_iff_of_enclosed`).
3. A valid pattern, so enclosed, matches where the pattern matches the whole text
   (`isMatch_enclosed_iff`).

How large the automata of a pattern are is no matter of its syntax: `IsValid` does
not ask for it.
-/

namespace DeclGen.Pattern

/-! ## valid patterns -/

/-- What a pattern means, under the default flags; nothing if it is malformed. -/
def expr? (text : String) : Option Expr :=
  (Syntax.parse? text.toList).bind fun written => (written.expr? .default).map (·.1)

/-- Whether a text is a pattern. -/
def IsValid (text : String) : Prop := (expr? text).isSome = true

/-- A pattern that is put into a group of its own, between the ends of the text. -/
def enclose (text : String) : String := "^(?:" ++ text ++ ")$"

/-- A text in which a bracket closes the group around it, behind a pattern. -/
def ClosesGroup (text : String) : Prop :=
  ∃ inside outside : String, text = inside ++ ")" ++ outside ∧ IsValid ("(?:" ++ inside ++ ")")

theorem compile?_eq (text : String) :
    compile? text = (expr? text).bind fun e => if e.fits then some ⟨e⟩ else none := by
  rw [compile?, expr?]
  cases Syntax.parse? text.toList with
  | none => rfl
  | some written => cases h : written.expr? .default <;> simp [h]

theorem parse?_eq_some {text : List Char} {pattern : Syntax} :
    Syntax.parse? text = some pattern ↔ pattern.depth ≤ maxDepth ∧
      ∃ names fuel, readParts false [] [] [] fuel text = some ((pattern, names), []) := by
  constructor
  · intro h
    rw [Syntax.parse?] at h
    split at h
    · next written names hread =>
        split at h
        · next hdepth =>
            obtain rfl := Option.some.inj h
            exact ⟨hdepth, names, _, hread⟩
        · simp at h
    · simp at h
  · rintro ⟨hdepth, names, fuel, hread⟩
    rw [Syntax.parse?, readParts_of_some hread (Nat.lt_succ_self _)]
    exact if_pos hdepth

/-- A text whose reading stops at a closing bracket is no pattern. -/
theorem parse?_eq_none {text r : List Char} {fuel : Nat} {p : Syntax × List (List Char)}
    (h : readParts false [] [] [] fuel text = some (p, ')' :: r)) :
    Syntax.parse? text = none := by
  rw [Syntax.parse?, readParts_of_some h (Nat.lt_succ_self _)]

theorem isValid_iff {text : String} : IsValid text ↔ ∃ pattern : Syntax, pattern.Sound ∧
    ∃ names fuel, readParts false [] [] [] fuel text.toList = some ((pattern, names), []) := by
  rw [IsValid, expr?]
  constructor
  · intro h
    obtain ⟨e, he⟩ := Option.isSome_iff_exists.mp h
    obtain ⟨pattern, hparse, hmeans⟩ := Option.bind_eq_some_iff.mp he
    obtain ⟨p, hp, -⟩ := Option.map_eq_some_iff.mp hmeans
    obtain ⟨hdepth, hread⟩ := parse?_eq_some.mp hparse
    exact ⟨pattern, ⟨hdepth, by rw [hp]; rfl⟩, hread⟩
  · rintro ⟨pattern, ⟨hdepth, hmeans⟩, hread⟩
    rw [parse?_eq_some.mpr ⟨hdepth, hread⟩, Option.bind_some, Option.isSome_map]
    exact hmeans

/-! ## the group -/

/-- A group without flags is read up to its closing bracket. -/
theorem readParts_open {fuel : Nat} {s : List Char} {names : List (List Char)}
    {branches parts : List Syntax} :
    readParts false names branches parts (fuel + 1) ('(' :: '?' :: ':' :: s) =
      (readParts false names [] [] fuel s).bind fun p => match p.2 with
        | ')' :: r =>
          readParts false p.1.2 branches (parts ++ [.group false [] p.1.1]) fuel r
        | _ => none := by
  have hopening : readGroupOpening false ('?' :: ':' :: s) = some (.plain [], s) := rfl
  have hround : readRound false names fuel ('(' :: '?' :: ':' :: s) =
      readGroup false fuel false [] names s := by
    rw [readRound_of_ne (by decide), readSign, hopening]
    rfl
  have hspace : space false ('(' :: '?' :: ':' :: s) = '(' :: '?' :: ':' :: s := rfl
  rw [readParts_succ, hspace, if_neg (by simp [endsHere]), hround, ← readParts_group]
  rfl

/-- A pattern in a group between the ends of the text is read with the group. -/
theorem readParts_enclosed {fuel : Nat} {text : List Char} :
    readParts false [] [] [] (fuel + 2) ("^(?:".toList ++ text ++ ")$".toList) =
      (readParts false [] [] [] fuel (text ++ [')', '$'])).bind fun p => match p.2 with
        | ')' :: r =>
          readParts false p.1.2 [] [.anchor .lineStart, .group false [] p.1.1] fuel r
        | _ => none := by
  have hstart : ∀ r, readParts false [] [] [] (fuel + 2) ('^' :: r) =
      readParts false [] [] [.anchor .lineStart] (fuel + 1) r := fun r => rfl
  have htext : "^(?:".toList ++ text ++ ")$".toList =
      '^' :: '(' :: '?' :: ':' :: (text ++ [')', '$']) := rfl
  rw [htext, hstart, readParts_open]
  rfl

/-- Where a closing bracket stands that is in front of a text's end. -/
theorem eq_or_of_suffix {text r : List Char} (h : ')' :: r <:+ text ++ [')', '$']) :
    r = ['$'] ∨ ∃ inside outside, text = inside ++ ')' :: outside ∧
      r = outside ++ [')', '$'] := by
  obtain ⟨w, hw⟩ := h
  obtain ⟨u, htext, hr⟩ | ⟨u, -, hr⟩ := List.append_eq_append_iff.mp hw
  · cases u with
    | nil => exact .inl (List.cons.inj hr).2
    | cons c outside =>
        obtain ⟨rfl, rfl⟩ := List.cons.inj hr
        exact .inr ⟨w, outside, htext, rfl⟩
  · match u with
    | [] => exact .inl (List.cons.inj hr).2.symm
    | [c] => simp at hr
    | c :: d :: u => simp at hr

/-- What the reading of an enclosed pattern leaves behind the pattern: the end of the
enclosure, or what is left of the pattern in front of it. -/
theorem exists_rest_of_enclosed {text : String} {pattern : Syntax}
    (h : Syntax.parse? (enclose text).toList = some pattern) :
    ∃ body names fuel r, readParts false [] [] [] fuel (text.toList ++ [')', '$']) =
        some ((body, names), ')' :: r) ∧
      (∃ names', readParts false names [] [.anchor .lineStart, .group false [] body] fuel r =
        some ((pattern, names'), [])) ∧
      (r = ['$'] ∨ ∃ inside outside, text.toList = inside ++ ')' :: outside ∧
        r = outside ++ [')', '$']) := by
  obtain ⟨-, names', n, hread⟩ := parse?_eq_some.mp h
  have htext : (enclose text).toList = "^(?:".toList ++ text.toList ++ ")$".toList := by
    rw [enclose, String.toList_append, String.toList_append]
  have hread := readParts_of_some hread
    (Nat.lt_add_of_pos_right (n := (enclose text).toList.length) (k := 2) (by decide))
  rw [htext, readParts_enclosed] at hread
  obtain ⟨⟨⟨body, names⟩, rest⟩, hbody, hrest⟩ := Option.bind_eq_some_iff.mp hread
  split at hrest
  · next r hr =>
      obtain rfl : rest = ')' :: r := hr
      have hblind : ∀ fuel, Blind [] [] (readParts false [] [] [] fuel) :=
        fun fuel => blind_readParts false [] [] [] fuel
      exact ⟨body, names, _, r, hbody, ⟨names', hrest⟩,
        eq_or_of_suffix ((hblind _).leaves hbody)⟩
  · simp at hrest

/-- A group is read as the text in it is, up to its closing bracket. -/
theorem exists_rest_of_group {text : List Char} {pattern : Syntax}
    (h : Syntax.parse? ("(?:".toList ++ text ++ ")".toList) = some pattern) :
    ∃ p fuel r, readParts false [] [] [] fuel (text ++ [')']) = some (p, ')' :: r) := by
  obtain ⟨-, names', n, hread⟩ := parse?_eq_some.mp h
  have htext : "(?:".toList ++ text ++ ")".toList = '(' :: '?' :: ':' :: (text ++ [')']) := rfl
  rw [htext] at hread
  cases n with
  | zero => simp [readParts] at hread
  | succ n =>
      rw [readParts_open] at hread
      obtain ⟨⟨p, rest⟩, hbody, hrest⟩ := Option.bind_eq_some_iff.mp hread
      split at hrest
      · next r hr =>
          obtain rfl : rest = ')' :: r := hr
          exact ⟨p, n, r, hbody⟩
      · simp at hrest

/-- A text that closes the group around it is no pattern. -/
theorem not_isValid_of_closesGroup {text : String} (h : ClosesGroup text) : ¬ IsValid text := by
  obtain ⟨inside, outside, rfl, hinside⟩ := h
  obtain ⟨e, he⟩ := Option.isSome_iff_exists.mp hinside
  obtain ⟨pattern, hparse, -⟩ := Option.bind_eq_some_iff.mp he
  rw [String.toList_append, String.toList_append] at hparse
  obtain ⟨p, fuel, r, hread⟩ := exists_rest_of_group hparse
  -- the text goes on behind the bracket, but its reading stops there all the same
  have hfront : Alike [')'] (')' :: outside.toList) (inside.toList ++ [')'])
      (inside.toList ++ ')' :: outside.toList) := ⟨rfl, by simp, inside.toList, rfl, rfl⟩
  obtain ⟨r', hread', hr⟩ := (blind_readParts false [] [] [] fuel).alike hfront hread (by simp)
  have hnone : Syntax.parse? (inside.toList ++ ')' :: outside.toList) = none := by
    cases r' with
    | nil =>
        obtain ⟨w, -, hw⟩ := hr.same
        simp at hw
    | cons c r' =>
        obtain rfl := hr.head_eq
        exact parse?_eq_none hread'
  have htext : (inside ++ ")" ++ outside).toList = inside.toList ++ ')' :: outside.toList := by
    simp
  rw [IsValid, expr?, htext, hnone]
  simp

/-- A group in a sound sequence is sound. -/
theorem sound_group {body : Syntax}
    (h : (closeGroup [] [.anchor .lineStart, .group false [] body]).Sound) :
    (Syntax.group false [] body).Sound := by
  obtain ⟨hdepth, hmeans⟩ := h
  constructor
  · simp only [closeGroup, Syntax.ofBranches, Syntax.ofSequence, List.nil_append, Syntax.depth,
      Syntax.depthAll] at hdepth ⊢
    omega
  · obtain ⟨p, hp, hparts⟩ := isSome_expr?_closeGroup.mp hmeans
    obtain rfl := Option.some.inj hp
    have hparts : (Syntax.exprs? .default
        ([.anchor .lineStart] ++ [.group false [] body])).isSome = true := hparts
    obtain ⟨q, hq, hgroup⟩ := isSome_exprs?_append.mp hparts
    obtain rfl := Option.some.inj hq
    rwa [isSome_exprs?_singleton] at hgroup

/-- An enclosed pattern closes the group around it, or it is read as it is on its own. -/
theorem closesGroup_or_parse? {text : String} {pattern : Syntax}
    (h : Syntax.parse? (enclose text).toList = some pattern)
    (hmeans : (pattern.expr? .default).isSome = true) :
    ClosesGroup text ∨ ∃ body, Syntax.parse? text.toList = some body ∧
      pattern = .concatenation [.anchor .lineStart, .group false [] body, .anchor .lineEnd] := by
  have hdepth := (parse?_eq_some.mp h).1
  obtain ⟨body, names, fuel, r, hbody, ⟨names', hrest⟩, rfl | ⟨inside, outside, htext, rfl⟩⟩ :=
    exists_rest_of_enclosed h
  · right
    have hpattern : pattern =
        .concatenation [.anchor .lineStart, .group false [] body, .anchor .lineEnd] := by
      have hclose := readParts_of_some hrest (show ['$'].length < 3 by decide)
      exact (Prod.mk.inj (Prod.mk.inj (Option.some.inj hclose)).1).1.symm
    have hfront : Alike [')', '$'] [] (text.toList ++ [')', '$']) (text.toList ++ []) :=
      ⟨rfl, by simp, text.toList, rfl, rfl⟩
    obtain ⟨r', hread, hr⟩ := (blind_readParts false [] [] [] fuel).alike hfront hbody (by simp)
    obtain ⟨-, rfl⟩ := hr.eq_tails (by simp)
    rw [List.append_nil] at hread
    refine ⟨body, parse?_eq_some.mpr ⟨?_, names, fuel, hread⟩, hpattern⟩
    simp only [hpattern, Syntax.depth, Syntax.depthAll] at hdepth
    omega
  · left
    have hsound := sound_group (sound_of_readParts hrest ⟨hdepth, hmeans⟩)
    have hfront : Alike (')' :: (outside ++ [')', '$'])) [')']
        (text.toList ++ [')', '$']) (inside ++ [')']) :=
      ⟨rfl, by simp, inside, by simp [htext], rfl⟩
    obtain ⟨r', hread, hr⟩ := (blind_readParts false [] [] [] fuel).alike hfront hbody
      (Nat.le_refl _)
    obtain ⟨-, rfl⟩ := hr.eq_tails (Nat.le_refl _)
    refine ⟨String.ofList inside, String.ofList outside, ?_, isValid_iff.mpr
      ⟨.group false [] body, hsound, names, (inside ++ [')']).length + 2, ?_⟩⟩
    · rw [← String.toList_inj, htext]
      simp
    · have hgroup : ("(?:" ++ String.ofList inside ++ ")").toList =
          '(' :: '?' :: ':' :: (inside ++ [')']) := by simp
      rw [hgroup, readParts_open, readParts_of_some hread (Nat.lt_succ_self _)]
      rfl

/-! ## meanings -/

/-- What an enclosed pattern means, if it is read as it is on its own. -/
theorem expr?_enclosed (body : Syntax) :
    (Syntax.concatenation
      [.anchor .lineStart, .group false [] body, .anchor .lineEnd]).expr? .default =
    (body.expr? .default).map fun p =>
      (.ofSequence [.look .start, p.1, .look .stop], .default) := by
  have hflags : Flags.default.apply [] = .default := rfl
  simp only [Syntax.expr?, Syntax.exprs?, Option.bind_eq_bind, Option.bind_some, hflags]
  cases body.expr? .default <;> rfl

theorem expr?_eq_some {text : String} {e : Expr} : expr? text = some e ↔
    ∃ written flags, Syntax.parse? text.toList = some written ∧
      written.expr? .default = some (e, flags) := by
  simp [expr?, Option.bind_eq_some_iff]

/-- Enclosed, a text is valid on its own if and only if it does not close the group. -/
theorem isValid_iff_of_enclose {text : String} (h : IsValid (enclose text)) :
    IsValid text ↔ ¬ ClosesGroup text := by
  constructor
  · exact fun hvalid hcloses => not_isValid_of_closesGroup hcloses hvalid
  · intro hopen
    obtain ⟨e, he⟩ := Option.isSome_iff_exists.mp h
    obtain ⟨written, flags, hparse, hmeans⟩ := expr?_eq_some.mp he
    obtain hcloses | ⟨body, hbody, rfl⟩ := closesGroup_or_parse? hparse (by rw [hmeans]; rfl)
    · exact absurd hcloses hopen
    · rw [expr?_enclosed] at hmeans
      obtain ⟨p, hp, -⟩ := Option.map_eq_some_iff.mp hmeans
      exact Option.isSome_iff_exists.mpr ⟨p.1, expr?_eq_some.mpr ⟨body, p.2, hbody, hp⟩⟩

/-- A valid pattern stands between the ends of the text in its enclosure. -/
theorem expr?_enclose {text : String} {e e' : Expr} (h : expr? text = some e)
    (h' : expr? (enclose text) = some e') : e' = .ofSequence [.look .start, e, .look .stop] := by
  obtain ⟨written, flags, hparse, hmeans⟩ := expr?_eq_some.mp h
  obtain ⟨written', flags', hparse', hmeans'⟩ := expr?_eq_some.mp h'
  obtain hcloses | ⟨body, hbody, rfl⟩ := closesGroup_or_parse? hparse' (by rw [hmeans']; rfl)
  · exact absurd (by rw [IsValid, h]; rfl) (not_isValid_of_closesGroup hcloses)
  · obtain rfl := Option.some.inj (hparse.symm.trans hbody)
    rw [expr?_enclosed, hmeans] at hmeans'
    exact (Prod.mk.inj (Option.some.inj hmeans')).1.symm

theorem compile?_eq_some {text : String} {p : Pattern} (h : compile? text = some p) :
    expr? text = some p.expr := by
  rw [compile?_eq] at h
  obtain ⟨e, he, hfits⟩ := Option.bind_eq_some_iff.mp h
  split at hfits
  · obtain rfl := Option.some.inj hfits
    exact he
  · simp at hfits

/-- Between the ends of a text an expression matches the whole text. -/
theorem occursIn_between_ends {e : Expr} {text : String} :
    (Expr.ofSequence [.look .start, e, .look .stop]).occursIn text.toList = true ↔
      e.MatchesWhole text := by
  rw [Expr.occursIn_iff]
  simp only [Expr.matches_ofSequence, Expr.MatchesAll, Expr.Matches, Look.holds]
  constructor
  · rintro ⟨i, j, -, _, ⟨rfl, hstart⟩, k, he, _, ⟨rfl, hstop⟩, rfl⟩
    obtain rfl : i = 0 := of_decide_eq_true hstart
    rw [Expr.MatchesWhole]
    rwa [of_decide_eq_true hstop] at he
  · intro he
    exact ⟨0, _, Nat.zero_le _, 0, ⟨rfl, rfl⟩, _, he, _, ⟨rfl, decide_eq_true rfl⟩, rfl⟩

/-- A valid pattern, enclosed, matches a text if and only if it matches the whole
text on its own. -/
theorem isMatch_enclose_iff {text : String} {e : Expr} (h : expr? text = some e) {p : Pattern}
    (hp : compile? (enclose text) = some p) (path : String) :
    p.isMatch path = true ↔ e.MatchesWhole path := by
  rw [isMatch, expr?_enclose h (compile?_eq_some hp), occursIn_between_ends]

end DeclGen.Pattern
