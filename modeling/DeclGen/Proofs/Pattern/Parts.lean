import DeclGen.Proofs.Pattern.Class

/-!
# DeclGen.Proofs.Pattern.Parts

Reading a pattern, round by round.  A round brings an edit of what is read so far
(`Edit`): a branch ends, a part is added, or the last part gets bounds
(`readParts_succ`).

1. Nothing is read behind the closing bracket of the group around
   (`blind_readParts`).
2. Fuel for each character and one round more are enough (`readParts_of_some`).
-/

namespace DeclGen.Pattern

open Text

variable {tail tail' s s' : List Char}

/-! ## rounds -/

/-- What a round changes in the branches and the parts that are read so far. -/
inductive Edit where
  /-- A branch ends. -/
  | branch
  /-- A part more. -/
  | add (part : Syntax)
  /-- Bounds for the last part. -/
  | bound (least : Nat) (most : Option Nat)

/-- The branches and the parts behind an edit; bounds ask for a part that can be
repeated. -/
def Edit.perform? (branches parts : List Syntax) : Edit → Option (List Syntax × List Syntax)
  | branch => some (branches ++ [.ofSequence parts], [])
  | add part => some (branches, parts ++ [part])
  | bound least most => parts.getLast?.bind fun body =>
    if body.repeatable then some (branches, parts.dropLast ++ [.repetition least most body])
    else none

/-- An edit, whether blanks are skipped behind it, and the names of groups so far. -/
structure Round where
  edit : Edit
  skip : Bool
  names : List (List Char)

/-- A group behind its opening. -/
def readGroup (skip : Bool) (fuel : Nat) (captures : Bool) (change : FlagChange)
    (names : List (List Char)) : Reader Round := fun r =>
  (readParts (skipsAfter skip change) names [] [] fuel r).bind fun p => match p.2 with
    | ')' :: r => some (⟨.add (.group captures change p.1.1), skip, p.1.2⟩, r)
    | _ => none

/-- What a group, or a change of flags, brings. -/
def readOpened (skip : Bool) (names : List (List Char)) (fuel : Nat) :
    GroupOpening → Reader Round
  | .flags change, r => some (⟨.add (.setFlags change), skipsAfter skip change, names⟩, r)
  | .plain change, r => readGroup skip fuel false change names r
  | .capture name, r => (addName? names name).bind fun names => readGroup skip fuel true [] names r

/-- What a round brings that starts with no backslash. -/
def readSign (skip : Bool) (names : List (List Char)) (fuel : Nat) : Reader Round
  | [] => none
  | '|' :: r => some (⟨.branch, skip, names⟩, r)
  | '(' :: r => (readGroupOpening skip r).bind fun p => readOpened skip names fuel p.1 p.2
  | '[' :: r => (readClass skip r).map fun p => (⟨.add p.1, skip, names⟩, p.2)
  | '.' :: r => some (⟨.add .dot, skip, names⟩, r)
  | '^' :: r => some (⟨.add (.anchor .lineStart), skip, names⟩, r)
  | '$' :: r => some (⟨.add (.anchor .lineEnd), skip, names⟩, r)
  | c :: r =>
    if c = '?' || c = '*' || c = '+' || c = '\x7b' then
      (readRepetition skip (c :: r)).map fun p => (⟨.bound p.1.1 p.1.2, skip, names⟩, p.2)
    else some (⟨.add (.literal ⟨c, false⟩), skip, names⟩, r)

/-- What a round brings, behind what may be skipped. -/
def readRound (skip : Bool) (names : List (List Char)) (fuel : Nat) : Reader Round
  | '\\' :: r => (readEscape skip r).map fun p => (⟨.add p.1, skip, names⟩, p.2)
  | r => readSign skip names fuel r

/-- Whether the pattern ends here: at the end of the text, or at a closing bracket. -/
def endsHere : List Char → Bool
  | [] => true
  | c :: _ => c = ')'

/-- How reading a pattern goes on behind a round. -/
def continueParts (branches parts : List Syntax) (fuel : Nat) (round : Round) :
    Reader (Syntax × List (List Char)) := fun r =>
  (round.edit.perform? branches parts).bind fun p =>
    readParts round.skip round.names p.1 p.2 fuel r

theorem readSign_other {skip : Bool} {names : List (List Char)} {fuel : Nat} {c : Char}
    (h : c ∉ ['|', '(', '[', '.', '^', '$']) (r : List Char) :
    readSign skip names fuel (c :: r) =
      if c = '?' || c = '*' || c = '+' || c = '\x7b' then
        (readRepetition skip (c :: r)).map fun p => (⟨.bound p.1.1 p.1.2, skip, names⟩, p.2)
      else some (⟨.add (.literal ⟨c, false⟩), skip, names⟩, r) := by
  simp only [List.mem_cons, List.not_mem_nil, or_false, not_or] at h
  obtain ⟨hbar, hopen, hbracket, hdot, hstart, hend⟩ := h
  rw [readSign]
  all_goals assumption

theorem readRound_of_ne {skip : Bool} {names : List (List Char)} {fuel : Nat} {c : Char}
    (h : c ≠ '\\') (r : List Char) :
    readRound skip names fuel (c :: r) = readSign skip names fuel (c :: r) := by
  rw [readRound]
  intro r' heq
  exact h (List.cons.inj heq).1

theorem readParts_group (skip : Bool) (branches parts : List Syntax) (fuel : Nat)
    (captures : Bool) (change : FlagChange) (names : List (List Char)) (r : List Char) :
    ((readParts (skipsAfter skip change) names [] [] fuel r).bind fun p => match p.2 with
      | ')' :: r =>
        readParts skip p.1.2 branches (parts ++ [.group captures change p.1.1]) fuel r
      | _ => none) =
    (readGroup skip fuel captures change names r).bind fun p =>
      continueParts branches parts fuel p.1 p.2 := by
  rw [readGroup, Option.bind_assoc]
  congr 1
  funext p
  split <;> rfl

theorem readParts_succ (skip : Bool) (names : List (List Char)) (branches parts : List Syntax)
    (fuel : Nat) (s : List Char) :
    readParts skip names branches parts (fuel + 1) s =
      if endsHere (space skip s) then
        some ((closeGroup branches parts, names), space skip s)
      else (readRound skip names fuel (space skip s)).bind fun p =>
        continueParts branches parts fuel p.1 p.2 := by
  have hadd : ∀ {f : Reader Syntax} {r : List Char},
      ((f r).map fun p => ((⟨.add p.1, skip, names⟩ : Round), p.2)).bind (fun p =>
        continueParts branches parts fuel p.1 p.2) =
      (f r).bind fun p => readParts skip names branches (parts ++ [p.1]) fuel p.2 := by
    intro f r
    rw [Option.bind_map]
    rfl
  rw [readParts]
  split
  · next h => rw [h]; rfl
  · next h => rw [h]; rfl
  · next h => rw [h]; rfl
  · next r h =>
      have hround : readRound skip names fuel ('(' :: r) =
          (readGroupOpening skip r).bind fun p => readOpened skip names fuel p.1 p.2 := rfl
      rw [h, if_neg (by simp [endsHere]), hround, Option.bind_assoc]
      dsimp only
      congr 1
      funext p
      split
      · rfl
      · exact readParts_group skip branches parts fuel false _ names _
      · simp only [readOpened, Option.bind_assoc]
        congr 1
        funext names
        exact readParts_group skip branches parts fuel true [] names _
  · next r h =>
      have hround : readRound skip names fuel ('[' :: r) =
          (readClass skip r).map fun p => (⟨.add p.1, skip, names⟩, p.2) := rfl
      rw [h, if_neg (by simp [endsHere]), hround, hadd]
      rfl
  · next r h =>
      have hround : readRound skip names fuel ('\\' :: r) =
          (readEscape skip r).map fun p => (⟨.add p.1, skip, names⟩, p.2) := rfl
      rw [h, if_neg (by simp [endsHere]), hround, hadd]
      rfl
  · next h => rw [h]; rfl
  · next h => rw [h]; rfl
  · next h => rw [h]; rfl
  · next c r hclose hbar hopen hbracket hback hdot hstart hend h =>
      have hends : ¬ endsHere (c :: r) = true := by simpa [endsHere] using hclose
      have hother : c ∉ ['|', '(', '[', '.', '^', '$'] := by
        simp only [List.mem_cons, List.not_mem_nil, or_false, not_or]
        exact ⟨hbar, hopen, hbracket, hdot, hstart, hend⟩
      rw [h, if_neg hends, readRound_of_ne hback, readSign_other hother]
      by_cases hcount : (c = '?' || c = '*' || c = '+' || c = '\x7b') = true
      · rw [if_pos hcount, if_pos hcount, Option.bind_map]
        simp only [continueParts, Edit.perform?, Function.comp_def]
        cases parts.getLast? with
        | none => cases readRepetition skip (c :: r) <;> rfl
        | some body =>
            by_cases hbody : body.repeatable = true
            · simp only [hbody, if_true, Option.bind_eq_bind, Option.bind_some]
            · cases readRepetition skip (c :: r) <;> simp [hbody]
      · rw [if_neg hcount, if_neg hcount]
        rfl

/-! ## what a round looks at -/

section Rounds

variable {skip : Bool} {names : List (List Char)} {fuel : Nat}

/-- The text ends here in front of one tail if it does in front of the other. -/
theorem Alike.endsHere_eq (h : Alike tail tail' s s') : endsHere s' = endsHere s := by
  obtain ⟨w, rfl, rfl⟩ := h.same
  cases w with
  | cons c w => rfl
  | nil =>
      obtain ⟨r, hr⟩ := List.head?_eq_some_iff.mp h.closes
      have hends := h.ends
      rw [hr]
      cases tail' with
      | nil => rfl
      | cons c r' =>
          obtain rfl := hends c rfl
          rfl

/-- The end of a group with what was read in it. -/
def readGroupEnd (skip captures : Bool) (change : FlagChange)
    (inside : Syntax × List (List Char)) : Reader Round
  | ')' :: r => some (⟨.add (.group captures change inside.1), skip, inside.2⟩, r)
  | _ => none

theorem blind_readGroup (captures : Bool) (change : FlagChange)
    (ih : ∀ skip names branches parts,
      Blind tail tail' (readParts skip names branches parts fuel)) :
    Blind tail tail' (readGroup skip fuel captures change names) := by
  have hclose : ∀ p, Blind tail tail' (readGroupEnd skip captures change p) := by
    intro p
    refine .cons rfl fun c => ?_
    by_cases hc : c = ')'
    · subst hc
      exact .pure _
    · exact Blind.none.congr fun r => by simp [readGroupEnd, hc]
  exact ((ih _ names [] []).bind hclose).congr fun r => rfl

theorem blind_readOpened (opening : GroupOpening)
    (ih : ∀ skip names branches parts,
      Blind tail tail' (readParts skip names branches parts fuel)) :
    Blind tail tail' (readOpened skip names fuel opening) := by
  cases opening with
  | flags change => exact .pure _
  | plain change => exact blind_readGroup false change ih
  | capture name => exact .option fun names => blind_readGroup true [] ih

theorem blind_readSign_cons (c : Char)
    (ih : ∀ skip names branches parts,
      Blind tail tail' (readParts skip names branches parts fuel)) :
    Blind tail tail' fun r => readSign skip names fuel (c :: r) := by
  by_cases hbar : c = '|'
  · subst hbar
    exact .pure _
  by_cases hopen : c = '('
  · subst hopen
    exact (blind_readGroupOpening skip).bind fun opening => blind_readOpened opening ih
  by_cases hbracket : c = '['
  · subst hbracket
    exact (blind_readClass skip).map (k := fun cls => (⟨.add cls, skip, names⟩ : Round))
  by_cases hdot : c = '.'
  · subst hdot
    exact .pure _
  by_cases hstart : c = '^'
  · subst hstart
    exact .pure _
  by_cases hend : c = '$'
  · subst hend
    exact .pure _
  have hother : c ∉ ['|', '(', '[', '.', '^', '$'] := by
    simp only [List.mem_cons, List.not_mem_nil, or_false, not_or]
    exact ⟨hbar, hopen, hbracket, hdot, hstart, hend⟩
  have hcount : Blind tail tail' fun r => (readRepetition skip (c :: r)).map fun p =>
      ((⟨.bound p.1.1 p.1.2, skip, names⟩ : Round), p.2) :=
    (blind_readRepetition_cons skip c).map
      (k := fun bounds => (⟨.bound bounds.1 bounds.2, skip, names⟩ : Round))
  have hread : Blind tail tail' fun r =>
      if c = '?' || c = '*' || c = '+' || c = '\x7b' then
        (readRepetition skip (c :: r)).map fun p =>
          ((⟨.bound p.1.1 p.1.2, skip, names⟩ : Round), p.2)
      else some ((⟨.add (.literal ⟨c, false⟩), skip, names⟩ : Round), r) :=
    .ite (fun _ => hcount) fun _ => .pure _
  exact hread.congr (readSign_other hother)

/-- The letters in the braces of an assertion about words. -/
def isAnchorLetter (c : Char) : Bool := c.isAlpha || c == '-'

theorem readWordAnchor_brace (r : List Char) :
    readWordAnchor skip ('\x7b' :: r) = match collect skip isAnchorLetter (space skip r) with
      | ([], _ :: _) => some (.anchor .word, '\x7b' :: r)
      | (name, '\x7d' :: rest) =>
        ([("start", Anchor.wordStart), ("end", .wordEnd), ("start-half", .wordStartHalf),
          ("end-half", .wordEndHalf)].lookup (String.ofList name)).bind fun kind =>
          some (.anchor kind, rest)
      | _ => none := rfl

theorem readWordAnchor_of_ne (h : ∀ r, s ≠ '\x7b' :: r) :
    readWordAnchor skip s = some (.anchor .word, s) := by
  rw [readWordAnchor]
  exact h

theorem readWordAnchor_suffix {r : List Char} {escape : Syntax}
    (h : readWordAnchor skip s = some (escape, r)) : r <:+ s := by
  by_cases hs : ∃ t, s = '\x7b' :: t
  · obtain ⟨t, rfl⟩ := hs
    have hblind : Blind [] [] fun s => some (collect skip isAnchorLetter s) := blind_collect _
    have hcollect := (hblind.space skip).leaves (s := t) rfl
    rw [readWordAnchor_brace] at h
    split at h
    · obtain ⟨-, rfl⟩ := Prod.mk.inj (Option.some.inj h)
      exact List.suffix_refl _
    · next name rest _ hname =>
        obtain ⟨kind, -, hr⟩ := Option.bind_eq_some_iff.mp h
        obtain ⟨-, rfl⟩ := Prod.mk.inj (Option.some.inj hr)
        rw [hname] at hcollect
        exact (List.suffix_cons _ _).trans (hcollect.trans (List.suffix_cons _ _))
    · simp at h
  · rw [readWordAnchor_of_ne (not_exists.mp hs)] at h
    obtain ⟨-, rfl⟩ := Prod.mk.inj (Option.some.inj h)
    exact List.suffix_refl _

/-- An assertion about words in front of a brace looks behind it.  It does not matter
if there is something behind the brace, in front of the tail. -/
theorem alike_readWordAnchor (hs : Alike tail tail' s s') {r : List Char} {escape : Syntax}
    (h : readWordAnchor skip s = some (escape, r)) (hlen : tail.length ≤ r.length)
    (hbrace : ∀ t, r = '\x7b' :: t → tail.length < (space skip t).length) :
    ∃ r', readWordAnchor skip s' = some (escape, r') ∧ Alike tail tail' r r' := by
  obtain ⟨hto, hfrom⟩ := hs.cons_iff (c := '\x7b') (by decide)
  by_cases hopen : ∃ t, s = '\x7b' :: t
  · obtain ⟨t, rfl⟩ := hopen
    obtain ⟨t', rfl, ht⟩ := hto t rfl
    have hblind : Blind tail tail' fun s => some (collect skip isAnchorLetter s) :=
      blind_collect _
    rw [readWordAnchor_brace] at h ⊢
    obtain ⟨⟨name, rest⟩, hname⟩ : ∃ p, collect skip isAnchorLetter (space skip t) = p := ⟨_, rfl⟩
    have hshort := hblind.shortens (s := space skip t) (congrArg some hname)
    rw [hname] at h
    -- the collected letters are followed by a character in front of the tail
    obtain ⟨c, u, rfl, hu⟩ : ∃ c u, rest = c :: u ∧ tail.length ≤ u.length := by
      cases rest with
      | nil => cases name <;> simp at h
      | cons c u =>
          refine ⟨c, u, rfl, ?_⟩
          cases name with
          | nil =>
              obtain ⟨-, rfl⟩ := Prod.mk.inj (Option.some.inj h)
              have hall := collect_of_nil (congrArg Prod.fst hname)
              have hbehind := hbrace t rfl
              rw [← hall, hname, List.length_cons] at hbehind
              omega
          | cons d name =>
              by_cases hc : c = '\x7d'
              · subst hc
                obtain ⟨kind, -, hr⟩ := Option.bind_eq_some_iff.mp h
                obtain ⟨-, rfl⟩ := Prod.mk.inj (Option.some.inj hr)
                exact hlen
              · simp [hc] at h
    rw [List.length_cons] at hshort
    have hspace : Alike tail tail' (space skip t) (space skip t') := ht.space (by omega)
    obtain ⟨rest', hrest', hr⟩ := hblind.alike hspace (congrArg some hname) (by simp; omega)
    obtain ⟨u', rfl, hu'⟩ := hr.of_cons hu
    rw [Option.some.inj hrest']
    cases name with
    | nil =>
        obtain ⟨rfl, rfl⟩ := Prod.mk.inj (Option.some.inj h)
        exact ⟨'\x7b' :: t', rfl, hs⟩
    | cons d name =>
        by_cases hc : c = '\x7d'
        · subst hc
          obtain ⟨kind, hkind, hr⟩ := Option.bind_eq_some_iff.mp h
          obtain ⟨rfl, rfl⟩ := Prod.mk.inj (Option.some.inj hr)
          exact ⟨u', Option.bind_eq_some_iff.mpr ⟨kind, hkind, rfl⟩, hu'⟩
        · simp [hc] at h
  · rw [readWordAnchor_of_ne (not_exists.mp hopen)] at h
    obtain ⟨rfl, rfl⟩ := Prod.mk.inj (Option.some.inj h)
    refine ⟨s', readWordAnchor_of_ne ?_, hs⟩
    intro t' ht'
    obtain ⟨t, ht, -⟩ := hfrom t' ht'
    exact hopen ⟨t, ht⟩

/-- A round reads its first character. -/
theorem readRound_suffix (ih : ∀ skip names branches parts,
      Blind tail tail' (readParts skip names branches parts fuel))
    {c : Char} {round : Round} {r : List Char}
    (h : readRound skip names fuel (c :: s) = some (round, r)) : r <:+ s := by
  by_cases hc : c = '\\'
  · subst hc
    obtain ⟨⟨escape, m⟩, hescape, heq⟩ := Option.map_eq_some_iff.mp h
    obtain ⟨-, rfl⟩ := Prod.mk.inj heq
    cases s with
    | nil => simp [readEscape] at hescape
    | cons d s =>
        refine List.IsSuffix.trans ?_ (List.suffix_cons d s)
        by_cases hd : d = 'b'
        · subst hd
          exact readWordAnchor_suffix hescape
        · have hblind : Blind [] [] fun r => readEscape skip (d :: r) := blind_readEscape hd
          exact hblind.leaves hescape
  · rw [readRound_of_ne hc] at h
    exact (blind_readSign_cons c ih).leaves h

/-- Two texts bring the same round.  Only an assertion about words in front of a brace
might look behind it. -/
theorem alike_readRound (ih : ∀ skip names branches parts,
      Blind tail tail' (readParts skip names branches parts fuel))
    (hs : Alike tail tail' s s') {round : Round} {r : List Char}
    (h : readRound skip names fuel s = some (round, r)) (hlen : tail.length ≤ r.length)
    (hbrace : ∀ t, r = '\x7b' :: t → tail.length < (space round.skip t).length) :
    ∃ r', readRound skip names fuel s' = some (round, r') ∧ Alike tail tail' r r' := by
  cases s with
  | nil => simp [readRound, readSign] at h
  | cons c s =>
      have hleaves := readRound_suffix ih h
      obtain ⟨s', rfl, hbehind⟩ := hs.of_cons (Nat.le_trans hlen hleaves.length_le)
      by_cases hc : c = '\\'
      · subst hc
        obtain ⟨⟨escape, m⟩, hescape, heq⟩ := Option.map_eq_some_iff.mp h
        obtain ⟨rfl, rfl⟩ := Prod.mk.inj heq
        have hescaped : ∃ r', readEscape skip s' = some (escape, r') ∧ Alike tail tail' m r' := by
          cases s with
          | nil => simp [readEscape] at hescape
          | cons d s =>
              by_cases hd : d = 'b'
              · subst hd
                have hword : readWordAnchor skip s = some (escape, m) := hescape
                have hend := (readWordAnchor_suffix hword).length_le
                obtain ⟨s', rfl, hword'⟩ := hbehind.of_cons (Nat.le_trans hlen hend)
                exact alike_readWordAnchor hword' hword hlen hbrace
              · have hblind : Blind tail tail' fun r => readEscape skip (d :: r) :=
                  blind_readEscape hd
                have hend := hblind.shortens hescape
                obtain ⟨s', rfl, hbehind'⟩ := hbehind.of_cons (Nat.le_trans hlen hend)
                exact hblind.alike hbehind' hescape hlen
        obtain ⟨r', hr', hr⟩ := hescaped
        exact ⟨r', by rw [readRound, hr']; rfl, hr⟩
      · rw [readRound_of_ne hc] at h ⊢
        exact (blind_readSign_cons c ih).alike hbehind h hlen

/-- A pattern that goes on with a brace has bounds there. -/
theorem length_lt_of_brace (ih : ∀ skip names branches parts,
      Blind tail tail' (readParts skip names branches parts fuel))
    {branches parts : List Syntax} {p : Syntax × List (List Char)} {r : List Char}
    (h : readParts skip names branches parts (fuel + 1) ('\x7b' :: s) = some (p, r)) :
    r.length < (space skip s).length := by
  have hspace : space skip ('\x7b' :: s) = '\x7b' :: s := by
    cases skip with
    | false => rfl
    | true => rfl
  rw [readParts_succ, hspace, if_neg (by simp [endsHere]), readRound_of_ne (by decide),
    readSign_other (by decide), if_pos (by decide), Option.bind_map] at h
  obtain ⟨⟨bounds, m⟩, hbounds, hrest⟩ := Option.bind_eq_some_iff.mp h
  obtain ⟨q, -, hq⟩ := Option.bind_eq_some_iff.mp hrest
  have hle := (ih _ _ _ _).shortens hq
  obtain ⟨⟨bounds', m'⟩, hread, heq⟩ := Option.map_eq_some_iff.mp hbounds
  obtain ⟨-, rfl⟩ := Prod.mk.inj heq
  have hlt := length_lt_of_readBounds hread
  have hlazy : Blind [] [] fun s => some ((), skipLazy (space skip s)) :=
    (blind_skipLazy ()).space skip
  have hskip := hlazy.shortens (s := m') rfl
  dsimp only at hle
  omega

end Rounds

/-- The rest of a pattern, where nothing may be skipped in front. -/
def readPartsHere (skip : Bool) (names : List (List Char)) (branches parts : List Syntax)
    (fuel : Nat) : Reader (Syntax × List (List Char)) := fun s =>
  (readRound skip names fuel s).bind fun p => continueParts branches parts fuel p.1 p.2

/-- A pattern is read without a look behind the closing bracket of the group around. -/
theorem blind_readParts (skip : Bool) (names : List (List Char)) (branches parts : List Syntax)
    (fuel : Nat) : Blind tail tail' (readParts skip names branches parts fuel) := by
  induction fuel using Nat.strong_induction_on generalizing skip names branches parts with
  | h fuel ih =>
      cases fuel with
      | zero => exact .none
      | succ fuel =>
          have hrest := ih fuel (Nat.lt_succ_self fuel)
          have hcontinue : ∀ round, Blind tail tail' (continueParts branches parts fuel round) :=
            fun round => .option fun q => hrest _ _ q.1 q.2
          have hhere : Blind tail tail' (readPartsHere skip names branches parts fuel) := by
            constructor
            · intro s r p h
              obtain ⟨⟨round, m⟩, hround, hp⟩ := Option.bind_eq_some_iff.mp h
              cases s with
              | nil => simp [readRound, readSign] at hround
              | cons c s =>
                  have hm := readRound_suffix hrest hround
                  exact ((hcontinue round).leaves hp).trans (hm.trans (List.suffix_cons c s))
            · intro s s' r p hs h hlen
              obtain ⟨⟨round, m⟩, hround, hp⟩ := Option.bind_eq_some_iff.mp h
              have hm := (hcontinue round).shortens hp
              have hbrace : ∀ t, m = '\x7b' :: t → tail.length < (space round.skip t).length := by
                rintro t rfl
                obtain ⟨q, -, hq⟩ := Option.bind_eq_some_iff.mp hp
                cases fuel with
                | zero => simp [readParts] at hq
                | succ fuel =>
                    exact Nat.lt_of_le_of_lt hlen (length_lt_of_brace (ih fuel (by omega)) hq)
              obtain ⟨m', hm', hmm⟩ :=
                alike_readRound hrest hs hround (Nat.le_trans hlen hm) hbrace
              obtain ⟨r', hr', hr⟩ := (hcontinue round).alike hmm hp hlen
              exact ⟨r', Option.bind_eq_some_iff.mpr ⟨_, hm', hr'⟩, hr⟩
          have hends : Blind tail tail' fun s =>
              if endsHere s then some ((closeGroup branches parts, names), s)
              else readPartsHere skip names branches parts fuel s :=
            .test (fun h => h.endsHere_eq) (.pure _) hhere
          exact (hends.space skip).congr (readParts_succ skip names branches parts fuel)

/-! ## fuel -/

/-- Another amount of fuel does as well for a round, if it does for the groups in it. -/
theorem readRound_of_some {skip : Bool} {names : List (List Char)} {fuel fuel' : Nat}
    {p : Round × List Char} (h : readRound skip names fuel s = some p)
    (ih : ∀ {skip names branches parts r q}, r.length < s.length →
      readParts skip names branches parts fuel r = some q →
      readParts skip names branches parts fuel' r = some q) :
    readRound skip names fuel' s = some p := by
  have hgroup : ∀ captures change names r q, r.length < s.length →
      readGroup skip fuel captures change names r = some q →
      readGroup skip fuel' captures change names r = some q := by
    intro captures change names r q hlen hq
    obtain ⟨body, hbody, hclose⟩ := Option.bind_eq_some_iff.mp hq
    exact Option.bind_eq_some_iff.mpr ⟨body, ih hlen hbody, hclose⟩
  have hopened : ∀ opening r q, r.length < s.length →
      readOpened skip names fuel opening r = some q →
      readOpened skip names fuel' opening r = some q := by
    intro opening r q hlen hq
    cases opening with
    | flags change => exact hq
    | plain change => exact hgroup false change names r q hlen hq
    | capture name =>
        obtain ⟨names', hnames, hq⟩ := Option.bind_eq_some_iff.mp hq
        exact Option.bind_eq_some_iff.mpr ⟨names', hnames, hgroup true [] names' r q hlen hq⟩
  rw [readRound.eq_def] at h ⊢
  split at h
  · exact h
  · next hback =>
      rw [readSign.eq_def] at h ⊢
      split at h
      case h_3 r _ =>
        obtain ⟨⟨opening, m⟩, hopening, hq⟩ := Option.bind_eq_some_iff.mp h
        have hblind : Blind [] [] (readGroupOpening skip) := blind_readGroupOpening skip
        have hle := hblind.shortens hopening
        exact Option.bind_eq_some_iff.mpr ⟨_, hopening, hopened opening m p
          (by rw [List.length_cons]; exact Nat.lt_succ_of_le hle) hq⟩
      all_goals exact h

/-- Fuel for each character, and for one round more, is enough. -/
theorem readParts_of_some {skip : Bool} {names : List (List Char)} {branches parts : List Syntax}
    {fuel fuel' : Nat} {p : (Syntax × List (List Char)) × List Char}
    (h : readParts skip names branches parts fuel s = some p) (hfuel : s.length < fuel') :
    readParts skip names branches parts fuel' s = some p := by
  induction fuel generalizing skip names branches parts s fuel' p with
  | zero => simp [readParts] at h
  | succ fuel ih =>
      obtain ⟨fuel', rfl⟩ : ∃ n, fuel' = n + 1 := ⟨fuel' - 1, by omega⟩
      have hskip := length_space_le skip s
      rw [readParts_succ] at h ⊢
      split at h
      · next hends => rwa [if_pos hends]
      · next hends =>
          rw [if_neg hends]
          obtain ⟨⟨round, r⟩, hround, hrest⟩ := Option.bind_eq_some_iff.mp h
          have hshort : r.length < (space skip s).length := by
            cases hs : space skip s with
            | nil => rw [hs] at hends; exact absurd rfl hends
            | cons c t =>
                rw [hs] at hround
                have hblind : ∀ skip names branches parts,
                    Blind [] [] (readParts skip names branches parts fuel) :=
                  fun skip names branches parts => blind_readParts skip names branches parts fuel
                exact Nat.lt_succ_of_le (readRound_suffix hblind hround).length_le
          rw [readRound_of_some hround fun hlen hq => ih hq (by omega), Option.bind_some]
          obtain ⟨q, hedit, hq⟩ := Option.bind_eq_some_iff.mp hrest
          exact Option.bind_eq_some_iff.mpr ⟨q, hedit, ih hq (by dsimp only at hshort ⊢; omega)⟩

end DeclGen.Pattern
