import DeclGen.Proofs.Pattern.Tail

/-!
# DeclGen.Proofs.Pattern.Blind

The readers of the parts of a pattern do not look behind the closing bracket of
the group that they stand in.
-/

namespace DeclGen.Pattern

open Text

variable {tail tail' s s' : List Char} {skip : Bool}

/-! ## runs and escapes -/

/-- A run of characters of one kind. -/
theorem blind_collect (p : Char → Bool) :
    Blind tail tail' fun s => some (collect skip p s) := by
  have hleaves : ∀ s, (collect skip p s).2 <:+ s := by
    intro s
    fun_induction collect skip p s with
    | case1 => exact List.suffix_refl _
    | case2 c r hc cs rest heq ih =>
        rw [heq] at ih
        exact (ih.trans (space_suffix skip r)).trans (List.suffix_cons c r)
    | case3 c r hc => exact List.suffix_refl _
  have halike : ∀ s s', Alike tail tail' s s' → tail.length ≤ (collect skip p s).2.length →
      (collect skip p s').1 = (collect skip p s).1 ∧
        Alike tail tail' (collect skip p s).2 (collect skip p s').2 := by
    intro s
    fun_induction collect skip p s with
    | case1 =>
        intro s' hs hlen
        obtain ⟨r, rfl⟩ := List.head?_eq_some_iff.mp hs.closes
        simp at hlen
    | case2 c r hc cs rest heq ih =>
        intro s' hs hlen
        have hle := (hleaves (space skip r)).length_le
        have hskip := length_space_le skip r
        rw [heq] at ih hle
        obtain ⟨r', rfl, hr⟩ := hs.of_cons (by dsimp only at hlen hle; omega)
        obtain ⟨hcs, hrest⟩ := ih _ (hr.space (Nat.le_trans hlen hle)) hlen
        rw [collect, if_pos hc]
        exact ⟨congrArg (c :: ·) hcs, hrest⟩
    | case3 c r hc =>
        intro s' hs hlen
        have hstop : collect skip p s' = ([], s') := by
          cases s' with
          | nil => rw [collect]
          | cons d r' =>
              rw [collect, ← hs.head_eq, if_neg hc]
        rw [hstop]
        exact ⟨rfl, hs⟩
  constructor
  · intro s r a h
    have hend := hleaves s
    rwa [Option.some.inj h] at hend
  · intro s s' r a hs h hlen
    have heq := Option.some.inj h
    obtain ⟨hfst, hsnd⟩ := halike s s' hs (by rwa [heq])
    rw [heq] at hfst hsnd
    obtain rfl : (collect skip p s').1 = a := hfst
    exact ⟨_, rfl, hsnd⟩

/-- What is collected is left out of the rest. -/
theorem length_collect_lt {p : Char → Bool} {s : List Char} (h : (collect skip p s).1 ≠ []) :
    (collect skip p s).2.length < s.length := by
  cases s with
  | nil => simp [collect] at h
  | cons c s =>
      by_cases hc : p c = true
      · have hcollect : Blind [] [] fun s => some (collect skip p s) := blind_collect p
        have hrest := hcollect.shortens (s := space skip s) rfl
        have hskip := length_space_le skip s
        rw [collect, if_pos hc, List.length_cons]
        dsimp only
        omega
      · rw [collect, if_neg hc] at h
        exact absurd rfl h

/-- Nothing is left out where nothing is collected. -/
theorem collect_of_nil {p : Char → Bool} (h : (collect skip p s).1 = []) :
    (collect skip p s).2 = s := by
  cases s with
  | nil => simp [collect]
  | cons c s =>
      by_cases hc : p c = true
      · rw [collect, if_pos hc] at h
        simp at h
      · rw [collect, if_neg hc]

/-- A digit and so many more. -/
def readMoreDigits (skip : Bool) (count : Nat) : Reader (List Char)
  | c :: r => (hexDigit? c).bind fun _ =>
    (readDigits skip count r).bind fun p => some (c :: p.1, p.2)
  | [] => none

theorem blind_readDigits (count : Nat) : Blind tail tail' (readDigits skip count) := by
  induction count with
  | zero => exact .pure []
  | succ count ih =>
      have hdigit : Blind tail tail' (readMoreDigits skip count) :=
        .cons rfl fun c => .option fun _ => ih.bind fun digits => .pure (c :: digits)
      exact (hdigit.space skip).congr fun s => by
        rw [readDigits]
        cases space skip s <;> rfl

/-- What is made of a name or a number, behind the closing brace. -/
def behindBrace {α : Type} (k : List Char → Reader α) (u : List Char) : Reader α
  | _ :: r => k u r
  | [] => none

/-- A name or a number up to a closing brace, and what is made of it. -/
theorem blind_braced {α : Type} {k : List Char → Reader α} (hk : ∀ u, Blind tail tail' (k u)) :
    Blind tail tail' fun s => match collect skip (· != '\x7d') (space skip s) with
      | (u, _ :: r) => k u r
      | (_, []) => none := by
  have hrest : ∀ u, Blind tail tail' (behindBrace k u) := fun u => .cons rfl fun _ => hk u
  have hread : Blind tail tail' fun s =>
      (some (collect skip (· != '\x7d') (space skip s))).bind fun p => behindBrace k p.1 p.2 :=
    ((blind_collect _).bind hrest).space skip
  exact hread.congr fun s => by
    rw [Option.bind_some]
    split <;> simp_all [behindBrace]

/-- The character of a code point with given digits. -/
def codePoint (byte : Bool) (digits : List Char) : Reader Syntax := fun r =>
  (hexValue? 16 digits).bind fun n => (scalar? n).bind fun c => some (.literal ⟨c, byte⟩, r)

/-- The same for digits in braces. -/
def bracedCodePoint (digits : List Char) : Reader Syntax := fun r =>
  if digits.isEmpty then none else codePoint false digits r

/-- The same for so many digits without braces. -/
def readBareCodePoint (skip : Bool) (count : Nat) : Reader Syntax := fun s =>
  (readDigits skip count s).bind fun p => codePoint (count == 2) p.1 p.2

/-- A code point, where nothing may be skipped in front. -/
def readCodePointHere (skip : Bool) (count : Nat) : Reader Syntax
  | '\x7b' :: r => match collect skip (· != '\x7d') (space skip r) with
    | (digits, _ :: rest) => bracedCodePoint digits rest
    | (_, []) => none
  | r => readBareCodePoint skip count r

theorem blind_readCodePoint (count : Nat) : Blind tail tail' (readCodePoint skip count) := by
  have hpoint : ∀ byte digits, Blind tail tail' (codePoint byte digits) := fun byte digits =>
    .option fun n => .option fun c => .pure _
  have hbraced : ∀ digits, Blind tail tail' (bracedCodePoint digits) := fun digits =>
    .ite (fun _ => .none) fun _ => hpoint false digits
  have hbare : Blind tail tail' (readBareCodePoint skip count) :=
    (blind_readDigits count).bind fun digits => hpoint _ digits
  have hhere : Blind tail tail' (readCodePointHere skip count) := by
    refine .head (c := '\x7b') (by decide) (blind_braced hbraced) hbare fun s hs => ?_
    unfold readCodePointHere
    split <;> simp_all
  exact (hhere.space skip).congr fun s => rfl

/-- A property of one letter. -/
def readLetterProperty (negated : Bool) : Reader Syntax
  | '\\' :: _ => none
  | c :: r => some (.property negated (.name [c]), r)
  | [] => none

/-- A property, where nothing may be skipped in front. -/
def readPropertyHere (skip negated : Bool) : Reader Syntax
  | '\x7b' :: r => match collect skip (· != '\x7d') (space skip r) with
    | (name, _ :: rest) => some (.property negated (propertyQuery name), rest)
    | (_, []) => none
  | '\\' :: _ => none
  | c :: r => some (.property negated (.name [c]), r)
  | [] => none

theorem blind_readProperty (negated : Bool) : Blind tail tail' (readProperty skip negated) := by
  have hletter : Blind tail tail' (readLetterProperty negated) := by
    refine .cons rfl fun c => ?_
    by_cases hc : c = '\\'
    · subst hc
      exact .none
    · exact (Blind.pure (.property negated (.name [c]))).congr fun r => by
        simp [readLetterProperty]
  have hhere : Blind tail tail' (readPropertyHere skip negated) := by
    refine .head (c := '\x7b') (by decide) (blind_braced fun name => .pure _) hletter fun s hs => ?_
    unfold readPropertyHere readLetterProperty
    split <;> simp_all
  exact (hhere.space skip).congr fun s => rfl

/-- An escape that is no assertion about words reads its first character, or what
that character asks for. -/
theorem blind_readEscape {c : Char} (hc : c ≠ 'b') :
    Blind tail tail' fun r => readEscape skip (c :: r) := by
  by_cases hx : c = 'x'
  · subst hx
    exact blind_readCodePoint 2
  by_cases hu : c = 'u'
  · subst hu
    exact blind_readCodePoint 4
  by_cases hU : c = 'U'
  · subst hU
    exact blind_readCodePoint 8
  by_cases hp : c = 'p'
  · subst hp
    exact blind_readProperty false
  by_cases hP : c = 'P'
  · subst hP
    exact blind_readProperty true
  have hother : ∃ value : Option Syntax, ∀ r, readEscape skip (c :: r) =
      value.bind fun e => some (e, r) := by
    refine ⟨(readEscape skip [c]).map (·.1), fun r => ?_⟩
    simp only [readEscape]
    split
    · rfl
    · split <;> rfl
  obtain ⟨value, hvalue⟩ := hother
  exact (Blind.option fun e => .pure e).congr hvalue

/-! ## repetitions -/

/-- The count that is written with given digits, with the blanks behind it. -/
def countOf (skip : Bool) (digits : List Char) : Reader (Option Nat) := fun r =>
  if digits.isEmpty then some (none, r)
  else if Nat.ofDigitChars 10 digits 0 < UInt32.size then
    some (some (Nat.ofDigitChars 10 digits 0), space skip (r.dropWhile isBlank))
  else none

theorem blind_readCount (skip : Bool) : Blind tail tail' (readCount skip) := by
  have hcount : ∀ digits, Blind tail tail' (countOf skip digits) := fun digits =>
    .ite (fun _ => .pure none) fun _ =>
      .ite (fun _ => .dropWhile fun _ => (Blind.pure _).space skip) fun _ => .none
  have hread : Blind tail tail' fun s =>
      (some (collect skip Char.isDigit (s.dropWhile isBlank))).bind fun p =>
        countOf skip p.1 p.2 :=
    .dropWhile (k := fun _ s =>
      (some (collect skip Char.isDigit s)).bind fun p => countOf skip p.1 p.2)
      fun _ => (blind_collect _).bind hcount
  exact hread.congr fun s => rfl

/-- What stands behind the lower bound of a counted repetition. -/
def readBoundsEnd (skip : Bool) (least : Nat) : Reader (Nat × Option Nat)
  | '\x7d' :: r => some ((least, some least), r)
  | ',' :: r => match space skip r with
    | '\x7d' :: r => some ((least, none), r)
    | r => (readCount skip r).bind fun p => p.1.bind fun most => match p.2 with
      | '\x7d' :: r => if least ≤ most then some ((least, some most), r) else none
      | _ => none
  | _ => none

theorem readBounds_eq (skip : Bool) (s : List Char) :
    readBounds skip s = (readCount skip (space skip s)).bind fun p =>
      p.1.bind fun least => readBoundsEnd skip least p.2 := by
  rw [readBounds]
  cases readCount skip (space skip s) with
  | none => rfl
  | some p =>
      obtain ⟨_ | least, r⟩ := p
      · rfl
      · rfl

/-- The end of bounds that are both given. -/
def closeBounds (least most : Nat) : Reader (Nat × Option Nat)
  | '\x7d' :: r => if least ≤ most then some ((least, some most), r) else none
  | _ => none

/-- What stands behind the comma of bounds, where nothing may be skipped in front. -/
def readUpperBound (skip : Bool) (least : Nat) : Reader (Nat × Option Nat)
  | '\x7d' :: r => some ((least, none), r)
  | r => (readCount skip r).bind fun p => p.1.bind fun most => closeBounds least most p.2

theorem blind_readBoundsEnd (skip : Bool) (least : Nat) :
    Blind tail tail' (readBoundsEnd skip least) := by
  have hclose : ∀ most, Blind tail tail' (closeBounds least most) := by
    intro most
    refine .head (c := '\x7d') (by decide) (.ite (fun _ => .pure _) fun _ => .none) .none
      fun s hs => ?_
    unfold closeBounds
    split <;> simp_all
  have hupper : Blind tail tail' (readUpperBound skip least) := by
    refine .head (c := '\x7d') (by decide) (.pure _)
      ((blind_readCount skip).bind (k := fun o s => o.bind fun most => closeBounds least most s)
        fun _ => .option hclose) fun s hs => ?_
    unfold readUpperBound
    split <;> simp_all
  refine .cases [['\x7d'], [',']] (by decide) ⟨.pure _, hupper.space skip⟩ .none fun s hs => ?_
  rw [readBoundsEnd]
  · exact hs.1
  · exact hs.2

theorem blind_readBounds (skip : Bool) : Blind tail tail' (readBounds skip) := by
  have hread : Blind tail tail' fun s => (readCount skip (space skip s)).bind fun p =>
      p.1.bind fun least => readBoundsEnd skip least p.2 :=
    ((blind_readCount skip).bind (k := fun o s => o.bind fun least => readBoundsEnd skip least s)
      fun _ => .option fun least => blind_readBoundsEnd skip least).space skip
  exact hread.congr (readBounds_eq skip)

/-- A count has at least one digit. -/
theorem length_lt_of_readCount {n : Nat} {r : List Char}
    (h : readCount skip s = some (some n, r)) : r.length < s.length := by
  have hblank := (List.dropWhile_suffix (l := s) isBlank).length_le
  simp only [readCount] at h
  split at h
  · simp at h
  · next hsome =>
      have hm : (collect skip Char.isDigit (s.dropWhile isBlank)).2.length <
          (s.dropWhile isBlank).length := length_collect_lt (by simpa using hsome)
      split at h
      · obtain ⟨-, rfl⟩ := Prod.mk.inj (Option.some.inj h)
        have hrest := (List.dropWhile_suffix
          (l := (collect skip Char.isDigit (s.dropWhile isBlank)).2) isBlank).length_le
        have hskip := length_space_le skip
          ((collect skip Char.isDigit (s.dropWhile isBlank)).2.dropWhile isBlank)
        omega
      · simp at h

/-- Bounds have at least one digit, behind what may be skipped. -/
theorem length_lt_of_readBounds {bounds : Nat × Option Nat} {r : List Char}
    (h : readBounds skip s = some (bounds, r)) : r.length < (space skip s).length := by
  rw [readBounds_eq] at h
  obtain ⟨⟨least, m⟩, hcount, h⟩ := Option.bind_eq_some_iff.mp h
  obtain ⟨least, rfl, hend⟩ := Option.bind_eq_some_iff.mp h
  have hblind : Blind [] [] (readBoundsEnd skip least) := blind_readBoundsEnd skip least
  exact Nat.lt_of_le_of_lt (hblind.shortens hend) (length_lt_of_readCount hcount)

theorem blind_skipLazy {α : Type} (a : α) : Blind tail tail' fun s => some (a, skipLazy s) := by
  refine .head (c := '?') (by decide) (.pure a) (.pure a) fun s hs => ?_
  simp only [skipLazy]

theorem blind_readRepetition_cons (skip : Bool) (c : Char) :
    Blind tail tail' fun r => readRepetition skip (c :: r) := by
  have hlazy : ∀ bounds : Nat × Option Nat,
      Blind tail tail' fun r => some (bounds, skipLazy r) := blind_skipLazy
  have hcounted : Blind tail tail' fun r => (readBounds skip r).bind fun p =>
      some (p.1, skipLazy (space skip p.2)) :=
    (blind_readBounds skip).bind fun bounds => (hlazy bounds).space skip
  by_cases hquestion : c = '?'
  · subst hquestion
    exact hlazy (0, some 1)
  by_cases hstar : c = '*'
  · subst hstar
    exact hlazy (0, none)
  by_cases hplus : c = '+'
  · subst hplus
    exact hlazy (1, none)
  by_cases hbrace : c = '\x7b'
  · subst hbrace
    refine hcounted.congr fun r => ?_
    cases h : readBounds skip r <;> simp [readRepetition, h]
  · exact Blind.none.congr fun r => by simp [readRepetition, hquestion, hstar, hplus, hbrace]

/-! ## openings of groups -/

/-- The first character ends the flags, or it tells how those behind it are read. -/
theorem readFlags_cons (clearing dangling : Bool) (change : FlagChange) (c : Char) :
    (∃ result : Option (FlagChange × Bool),
      ∀ r, readFlags clearing dangling change (c :: r) = result.bind fun a => some (a, r)) ∨
    ∃ clearing' dangling' change',
      ∀ r, readFlags clearing dangling change (c :: r) =
        readFlags clearing' dangling' change' r := by
  by_cases hcolon : c = ':'
  · subst hcolon
    left
    exact ⟨if dangling then none else some (change, true), fun r => by cases dangling <;> rfl⟩
  by_cases hclose : c = ')'
  · subst hclose
    left
    exact ⟨if dangling then none else some (change, false), fun r => by cases dangling <;> rfl⟩
  by_cases hdash : c = '-'
  · subst hdash
    cases clearing with
    | true => exact .inl ⟨none, fun r => rfl⟩
    | false => exact .inr ⟨true, true, change, fun r => rfl⟩
  have hletter := readFlags.eq_5 clearing dangling change c
  cases hflag : flag? c with
  | none =>
      left
      exact ⟨none, fun r => by rw [hletter r hcolon hclose hdash, hflag]; rfl⟩
  | some flag =>
      by_cases htwice : change.any (·.1 = flag) = true
      · left
        refine ⟨none, fun r => ?_⟩
        rw [hletter r hcolon hclose hdash, hflag, Option.bind_eq_bind, Option.bind_some,
          if_pos htwice]
        rfl
      · right
        refine ⟨clearing, false, change ++ [(flag, !clearing)], fun r => ?_⟩
        rw [hletter r hcolon hclose hdash, hflag, Option.bind_eq_bind, Option.bind_some,
          if_neg htwice]

theorem readFlags_suffix {s r : List Char} {clearing dangling : Bool} {change : FlagChange}
    {result : FlagChange × Bool} (h : readFlags clearing dangling change s = some (result, r)) :
    r <:+ s := by
  induction s generalizing clearing dangling change with
  | nil => simp [readFlags] at h
  | cons c s ih =>
      obtain ⟨ended, hread⟩ | ⟨clearing', dangling', change', hread⟩ :=
        readFlags_cons clearing dangling change c
      · rw [hread] at h
        obtain ⟨a, -, ha⟩ := Option.bind_eq_some_iff.mp h
        obtain ⟨-, rfl⟩ := Prod.mk.inj (Option.some.inj ha)
        exact List.suffix_cons c s
      · rw [hread] at h
        exact (ih h).trans (List.suffix_cons c s)

theorem blind_readFlags (clearing dangling : Bool) (change : FlagChange) :
    Blind tail tail' (readFlags clearing dangling change) := by
  refine ⟨readFlags_suffix, ?_⟩
  intro s
  induction s generalizing clearing dangling change with
  | nil => simp [readFlags]
  | cons c s ih =>
      intro s' r result hs h hlen
      obtain ⟨ended, hread⟩ | ⟨clearing', dangling', change', hread⟩ :=
        readFlags_cons clearing dangling change c
      · rw [hread] at h
        obtain ⟨a, ha, hr⟩ := Option.bind_eq_some_iff.mp h
        obtain ⟨rfl, rfl⟩ := Prod.mk.inj (Option.some.inj hr)
        obtain ⟨m', rfl, hm⟩ := hs.of_cons hlen
        exact ⟨m', by rw [hread, ha]; rfl, hm⟩
      · rw [hread] at h
        obtain ⟨m', rfl, hm⟩ := hs.of_cons (Nat.le_trans hlen (readFlags_suffix h).length_le)
        rw [hread]
        exact ih clearing' dangling' change' hm h hlen

/-- The name of a group and the `>` behind it, which are told apart already. -/
def groupName (name : List Char) : Reader (List Char) := fun r => match name, r with
  | first :: others, _ :: rest =>
    let inName (c : Char) : Bool := c == '_' || c == '.' || c == '[' || c == ']' || isAlphanumeric c
    if (first == '_' || isAlphabetic first) && others.all inName then some (name, rest) else none
  | _, _ => none

theorem blind_readGroupName : Blind tail tail' readGroupName := by
  have hname : ∀ name, Blind tail tail' (groupName name) := by
    intro name
    cases name with
    | nil => exact Blind.none
    | cons first others => exact .cons rfl fun _ => .ite (fun _ => .pure _) fun _ => .none
  exact (Blind.dropWhile hname).congr fun s => rfl

/-- How a group starts that captures under a name. -/
def readNamedOpening : Reader GroupOpening := fun r =>
  (readGroupName r).map fun p => (.capture (some p.1), p.2)

/-- How a group starts that has flags. -/
def readFlagOpening : Reader GroupOpening := fun r => (readFlags false false [] r).bind fun p =>
  if p.1.2 then some (.plain p.1.1, p.2)
  else if p.1.1.isEmpty then none
  else some (.flags p.1.1, p.2)

/-- How a group starts that has a name in angle brackets, or looks around. -/
def readAngledOpening : Reader GroupOpening
  | '=' :: _ => none
  | '!' :: _ => none
  | r => readNamedOpening r

/-- How a group starts, behind the question mark. -/
def readMarkedOpening : Reader GroupOpening
  | '=' :: _ => none
  | '!' :: _ => none
  | 'P' :: '<' :: r => readNamedOpening r
  | '<' :: r => readAngledOpening r
  | r => readFlagOpening r

/-- How a group starts, where nothing may be skipped in front. -/
def readOpeningHere : Reader GroupOpening
  | '?' :: r => readMarkedOpening r
  | r => some (.capture none, r)

theorem blind_readGroupOpening (skip : Bool) : Blind tail tail' (readGroupOpening skip) := by
  have hnamed : Blind tail tail' readNamedOpening :=
    blind_readGroupName.map (k := fun name => GroupOpening.capture (some name))
  have hflags : Blind tail tail' readFlagOpening :=
    (blind_readFlags false false []).bind
      (k := fun q r => if q.2 then some (GroupOpening.plain q.1, r)
        else if q.1.isEmpty then none else some (GroupOpening.flags q.1, r))
      fun q => .ite (fun _ => .pure _) fun _ => .ite (fun _ => .none) fun _ => .pure _
  have hangled : Blind tail tail' readAngledOpening := by
    refine .cases [['='], ['!']] (by decide) ⟨.none, .none⟩ hnamed fun s hs => ?_
    unfold readAngledOpening
    split <;> simp_all
  have hmarked : Blind tail tail' readMarkedOpening := by
    refine .cases [['='], ['!'], ['P', '<'], ['<']] (by decide) ?_ hflags fun s hs => ?_
    · exact ⟨.none, .none, hnamed, hangled⟩
    · unfold readMarkedOpening
      split <;> simp_all
  have hhere : Blind tail tail' readOpeningHere := by
    refine .head (c := '?') (by decide) hmarked (.pure (.capture none)) fun s hs => ?_
    unfold readOpeningHere
    split <;> simp_all
  refine (hhere.space skip).congr fun s => ?_
  unfold readGroupOpening readOpeningHere readMarkedOpening readAngledOpening readNamedOpening
    readFlagOpening
  split <;> simp_all

end DeclGen.Pattern
