import Mathlib.Data.List.TakeWhile
import DeclGen.Proofs.Pattern.Blind

/-!
# DeclGen.Proofs.Pattern.Class

Classes are read without a look behind the closing bracket of the group that they
stand in, and with as much fuel as there are characters.

1. Three things are looked for inside a class before it is known whether they are
   there: a named class, an operator, and what follows a dash.  None of them has a
   closing bracket, so they are there in front of one tail whenever they are in
   front of the other (`Alike.beginning`).
2. `readClassBody_of_some`: every round of the body reads a character, so fuel for
   each character and one round more are enough.
-/

namespace DeclGen.Pattern

open Text

variable {tail tail' s s' : List Char}

/-! ## named classes -/

theorem isAlpha_of_namedClass {name : List Char} {set : CharSet} (h : namedClass? name = some set)
    {c : Char} (hc : c ∈ name) : c.isAlpha = true := by
  have hall : (namedClasses.all fun p => p.1.toList.all Char.isAlpha) = true := by decide
  obtain ⟨ranges, hlookup, -⟩ := Option.map_eq_some_iff.mp h
  obtain ⟨l, l', heq, -⟩ := List.lookup_eq_some_iff.mp hlookup
  have hmem : (String.ofList name, ranges) ∈ namedClasses := by rw [heq]; simp
  have hname := List.all_eq_true.mp (List.all_eq_true.mp hall _ hmem)
  exact hname c (by rwa [String.toList_ofList])

/-- A named class behind its colon and the sign that negates it. -/
def readName (negated : Bool) : Reader ClassSyntax := fun r =>
  match r.dropWhile (· != ':') with
  | ':' :: ']' :: rest => (namedClass? (r.takeWhile (· != ':'))).bind fun set =>
    some (.named negated set, rest)
  | _ => none

theorem readName_eq_some {negated : Bool} {r : List Char} {cls : ClassSyntax} :
    readName negated s = some (cls, r) ↔ ∃ name set, namedClass? name = some set ∧
      s = name ++ ':' :: ']' :: r ∧ cls = .named negated set := by
  constructor
  · intro h
    rw [readName] at h
    split at h
    · next rest hdrop =>
        obtain ⟨set, hset, hr⟩ := Option.bind_eq_some_iff.mp h
        obtain ⟨rfl, rfl⟩ := Prod.mk.inj (Option.some.inj hr)
        exact ⟨_, set, hset, by rw [← hdrop, List.takeWhile_append_dropWhile], rfl⟩
    · simp at h
  · rintro ⟨name, set, hset, rfl, rfl⟩
    have hname : ∀ c ∈ name, (c != ':') = true := by
      intro c hc
      have halpha := isAlpha_of_namedClass hset hc
      have hcolon : c ≠ ':' := by
        rintro rfl
        exact absurd halpha (by decide)
      simpa using hcolon
    have hdrop : (name ++ ':' :: ']' :: r).dropWhile (· != ':') = ':' :: ']' :: r := by
      rw [List.dropWhile_append_of_pos hname]
      simp
    have htake : (name ++ ':' :: ']' :: r).takeWhile (· != ':') = name := by
      rw [List.takeWhile_append_of_pos hname]
      simp
    simp only [readName, hdrop, htake, hset, Option.bind_some]

/-- A named class as it is written behind its bracket. -/
def namedClassText (negated : Bool) (name : List Char) : List Char :=
  (if negated then [':', '^'] else [':']) ++ name ++ [':', ']']

theorem readNamedClass_caret (r : List Char) :
    readNamedClass (':' :: '^' :: r) = readName true r := rfl

theorem readNamedClass_colon {r : List Char} (hr : r.head? ≠ some '^') :
    readNamedClass (':' :: r) = readName false r := by
  cases r with
  | nil => rfl
  | cons c r =>
      have hc : c ≠ '^' := by simpa using hr
      rw [readNamedClass]
      · rfl
      · intro r' heq
        exact hc (List.cons.inj heq).1

theorem readNamedClass_eq_some {r : List Char} {cls : ClassSyntax} :
    readNamedClass s = some (cls, r) ↔ ∃ negated name set, namedClass? name = some set ∧
      s = namedClassText negated name ++ r ∧ cls = .named negated set := by
  have htext : ∀ negated name, namedClassText negated name ++ r =
      (if negated then [':', '^'] else [':']) ++ (name ++ ':' :: ']' :: r) := by
    simp [namedClassText]
  constructor
  · intro h
    cases s with
    | nil => simp [readNamedClass] at h
    | cons c r' =>
        by_cases hcolon : c = ':'
        · subst hcolon
          by_cases hcaret : r'.head? = some '^'
          · obtain ⟨r', rfl⟩ := List.head?_eq_some_iff.mp hcaret
            rw [readNamedClass_caret] at h
            obtain ⟨name, set, hset, rfl, rfl⟩ := readName_eq_some.mp h
            exact ⟨true, name, set, hset, (htext true name).symm, rfl⟩
          · rw [readNamedClass_colon hcaret] at h
            obtain ⟨name, set, hset, rfl, rfl⟩ := readName_eq_some.mp h
            exact ⟨false, name, set, hset, (htext false name).symm, rfl⟩
        · simp [readNamedClass, hcolon] at h
  · rintro ⟨negated, name, set, hset, rfl, rfl⟩
    have hname : readName negated (name ++ ':' :: ']' :: r) = some (.named negated set, r) :=
      readName_eq_some.mpr ⟨name, set, hset, rfl, rfl⟩
    rw [htext]
    cases negated with
    | true => exact hname
    | false =>
        have hhead : (name ++ ':' :: ']' :: r).head? ≠ some '^' := by
          cases name with
          | nil => simp
          | cons c name =>
              have halpha := isAlpha_of_namedClass hset List.mem_cons_self
              rintro hc
              obtain rfl : c = '^' := by simpa using hc
              exact absurd halpha (by decide)
        exact (readNamedClass_colon hhead).trans hname

theorem close_not_mem_namedClassText {name : List Char} {set : CharSet} (negated : Bool)
    (h : namedClass? name = some set) : ')' ∉ namedClassText negated name := by
  have hname : ')' ∉ name := fun hc => absurd (isAlpha_of_namedClass h hc) (by decide)
  cases negated <;> simp [namedClassText, hname]

/-- A named class is there in front of one tail if it is there in front of the other. -/
theorem Alike.isSome_readNamedClass (h : Alike tail tail' s s') :
    (readNamedClass s').isSome = (readNamedClass s).isSome := by
  rw [Bool.eq_iff_iff, Option.isSome_iff_exists, Option.isSome_iff_exists]
  constructor
  · rintro ⟨p, hp⟩
    obtain ⟨negated, name, set, hset, rfl, -⟩ := readNamedClass_eq_some.mp hp
    obtain ⟨r, rfl, -⟩ := (h.beginning (close_not_mem_namedClassText negated hset)).2 _ rfl
    exact ⟨_, readNamedClass_eq_some.mpr ⟨negated, name, set, hset, rfl, rfl⟩⟩
  · rintro ⟨p, hp⟩
    obtain ⟨negated, name, set, hset, rfl, -⟩ := readNamedClass_eq_some.mp hp
    obtain ⟨r', rfl, -⟩ := (h.beginning (close_not_mem_namedClassText negated hset)).1 _ rfl
    exact ⟨_, readNamedClass_eq_some.mpr ⟨negated, name, set, hset, rfl, rfl⟩⟩

theorem blind_readNamedClass : Blind tail tail' readNamedClass := by
  constructor
  · intro s r cls h
    obtain ⟨negated, name, set, -, rfl, -⟩ := readNamedClass_eq_some.mp h
    exact List.suffix_append _ r
  · intro s s' r cls hs h _
    obtain ⟨negated, name, set, hset, rfl, rfl⟩ := readNamedClass_eq_some.mp h
    obtain ⟨r', rfl, hr⟩ := (hs.beginning (close_not_mem_namedClassText negated hset)).1 r rfl
    exact ⟨r', readNamedClass_eq_some.mpr ⟨negated, name, set, hset, rfl, rfl⟩, hr⟩

/-! ## items and ranges -/

theorem anchor_of_readWordAnchor {skip : Bool} {r : List Char} {escape : Syntax}
    (h : readWordAnchor skip s = some (escape, r)) : ∃ kind, escape = .anchor kind := by
  rw [readWordAnchor.eq_def] at h
  split at h
  · dsimp only at h
    split at h
    · exact ⟨.word, (Prod.mk.inj (Option.some.inj h)).1.symm⟩
    · obtain ⟨kind, -, hr⟩ := Option.bind_eq_some_iff.mp h
      exact ⟨kind, (Prod.mk.inj (Option.some.inj hr)).1.symm⟩
    · simp at h
  · exact ⟨.word, (Prod.mk.inj (Option.some.inj h)).1.symm⟩

/-- An assertion about words is no item of a class. -/
theorem readClassItem_word (skip : Bool) (r : List Char) :
    readClassItem skip ('\\' :: 'b' :: r) = none := by
  cases h : readWordAnchor skip r with
  | none => simp [readClassItem, readEscape, h]
  | some p =>
      obtain ⟨kind, hkind⟩ := anchor_of_readWordAnchor h
      simp [readClassItem, readEscape, h, hkind, ClassSyntax.ofSyntax?]

theorem blind_readClassItem_cons (skip : Bool) (c : Char) :
    Blind tail tail' fun r => readClassItem skip (c :: r) := by
  by_cases hc : c = '\\'
  · subst hc
    refine .cons rfl fun d => ?_
    by_cases hd : d = 'b'
    · subst hd
      exact Blind.none.congr (readClassItem_word skip)
    · refine ((blind_readEscape hd).bind (k := fun escape r =>
        (ClassSyntax.ofSyntax? escape).bind fun cls => some (cls, r)) fun escape =>
          .option fun cls => .pure cls).congr fun r => rfl
  · refine (Blind.pure (.literal ⟨c, false⟩)).congr fun r => ?_
    simp only [readClassItem]

theorem blind_readClassItem (skip : Bool) : Blind tail tail' (readClassItem skip) :=
  .cons rfl (blind_readClassItem_cons skip)

/-- An item has at least one character. -/
theorem length_lt_of_readClassItem {skip : Bool} {r : List Char} {cls : ClassSyntax}
    (h : readClassItem skip s = some (cls, r)) : r.length < s.length := by
  cases s with
  | nil => simp [readClassItem] at h
  | cons c s =>
      have hblind : Blind [] [] fun r => readClassItem skip (c :: r) :=
        blind_readClassItem_cons skip c
      have hle := hblind.shortens h
      rw [List.length_cons]
      omega

theorem head_dropWhile_isBlank {c : Char} (hc : isBlank c = false) :
    (s.dropWhile isBlank).head? = some c ↔
      ∃ v r, (∀ d ∈ v, isBlank d = true) ∧ s = v ++ c :: r := by
  constructor
  · intro h
    obtain ⟨r, hr⟩ := List.head?_eq_some_iff.mp h
    refine ⟨s.takeWhile isBlank, r, fun d => List.mem_takeWhile_imp, ?_⟩
    rw [← hr, List.takeWhile_append_dropWhile]
  · rintro ⟨v, r, hv, rfl⟩
    rw [List.dropWhile_append_of_pos hv, List.dropWhile_cons, hc]
    rfl

/-- What may be skipped in front of a character that is peeked for: blanks, with the
sign of a comment between them. -/
def PeekedOver (skip : Bool) (u : List Char) : Prop :=
  u = [] ∨ skip = true ∧ ∃ v w, (∀ c ∈ v ++ w, isBlank c = true) ∧ (u = v ∨ u = v ++ '#' :: w)

theorem peekBehind_true {c : Char} (hc : isBlank c = false) (hsign : c ≠ '#') :
    peekBehind true s = some c ↔ (s.dropWhile isBlank).head? = some c ∨
      ∃ r, s.dropWhile isBlank = '#' :: r ∧ (r.dropWhile isBlank).head? = some c := by
  have hfront : s.head? = some c → (s.dropWhile isBlank).head? = some c := by
    intro h
    obtain ⟨r, rfl⟩ := List.head?_eq_some_iff.mp h
    simp [hc]
  simp only [peekBehind, if_true, Option.or_eq_some_iff]
  split
  · next r hdrop => grind
  · next hdrop => grind

theorem peekBehind_eq_some {skip : Bool} {c : Char} (hc : isBlank c = false) (hsign : c ≠ '#') :
    peekBehind skip s = some c ↔ ∃ u r, PeekedOver skip u ∧ s = u ++ c :: r := by
  cases skip with
  | false =>
      simp only [peekBehind, PeekedOver, Bool.false_eq_true, if_false, false_and, or_false]
      rw [List.head?_eq_some_iff]
      simp
  | true =>
      have hmark : isBlank '#' = false := by decide
      rw [peekBehind_true hc hsign]
      constructor
      · rintro (h | ⟨r, hdrop, h⟩)
        · obtain ⟨v, r, hv, rfl⟩ := (head_dropWhile_isBlank hc).mp h
          exact ⟨v, r, .inr ⟨rfl, v, [], by simpa using hv, .inl rfl⟩, rfl⟩
        · obtain ⟨w, r', hw, rfl⟩ := (head_dropWhile_isBlank hc).mp h
          refine ⟨s.takeWhile isBlank ++ '#' :: w, r', .inr ⟨rfl, _, w, ?_, .inr rfl⟩, ?_⟩
          · intro d hd
            exact (List.mem_append.mp hd).elim List.mem_takeWhile_imp (hw d)
          · rw [List.append_assoc, List.cons_append, ← hdrop, List.takeWhile_append_dropWhile]
      · rintro ⟨u, r, rfl | ⟨-, v, w, hblank, rfl | rfl⟩, rfl⟩
        · simp [hc]
        · left
          exact (head_dropWhile_isBlank hc).mpr ⟨u, r, by grind, rfl⟩
        · right
          refine ⟨w ++ c :: r, ?_, (head_dropWhile_isBlank hc).mpr ⟨w, r, by grind, rfl⟩⟩
          rw [List.append_assoc, List.dropWhile_append_of_pos (by grind), List.cons_append,
            List.dropWhile_cons, hmark]
          rfl

theorem close_not_mem_of_peekedOver {skip : Bool} {u : List Char} (h : PeekedOver skip u) :
    ')' ∉ u := by
  have hclose : isBlank ')' = false := by decide
  obtain rfl | ⟨-, v, w, hblank, rfl | rfl⟩ := h
  · simp
  · grind
  · grind

/-- What is peeked for is there in front of one tail if it is there in front of the
other. -/
theorem Alike.peekBehind_iff (h : Alike tail tail' s s') (skip : Bool) {c : Char}
    (hc : isBlank c = false) (hsign : c ≠ '#') (hclose : c ≠ ')') :
    peekBehind skip s = some c ↔ peekBehind skip s' = some c := by
  have happend : ∀ u r : List Char, u ++ c :: r = (u ++ [c]) ++ r := by simp
  have hfree : ∀ u, PeekedOver skip u → ')' ∉ u ++ [c] := by
    intro u hu
    have hover := close_not_mem_of_peekedOver hu
    grind
  rw [peekBehind_eq_some hc hsign, peekBehind_eq_some hc hsign]
  constructor
  · rintro ⟨u, r, hu, rfl⟩
    obtain ⟨r', rfl, -⟩ := (h.beginning (hfree u hu)).1 r (happend u r)
    exact ⟨u, r', hu, (happend u r').symm⟩
  · rintro ⟨u, r', hu, rfl⟩
    obtain ⟨r, rfl, -⟩ := (h.beginning (hfree u hu)).2 r' (happend u r')
    exact ⟨u, r, hu, (happend u r).symm⟩

/-- Whether the text starts with a dash that makes no range. -/
def danglingDash (skip : Bool) : List Char → Bool
  | '-' :: r => peekBehind skip r = some ']' || peekBehind skip r = some '-'
  | _ => false

theorem danglingDash_of_ne {skip : Bool} (h : ∀ r, s ≠ '-' :: r) : danglingDash skip s = false := by
  rw [danglingDash.eq_def]
  split
  · next r => exact absurd rfl (h r)
  · rfl

theorem Alike.danglingDash_eq (h : Alike tail tail' s s') (skip : Bool) :
    danglingDash skip s' = danglingDash skip s := by
  obtain ⟨hto, hfrom⟩ := h.cons_iff (c := '-') (by decide)
  by_cases hs : ∃ r, s = '-' :: r
  · obtain ⟨r, rfl⟩ := hs
    obtain ⟨r', rfl, hr⟩ := hto r rfl
    have hclose := hr.peekBehind_iff skip (c := ']') (by decide) (by decide) (by decide)
    have hdash := hr.peekBehind_iff skip (c := '-') (by decide) (by decide) (by decide)
    simp only [danglingDash, hclose, hdash]
  · have hs' : ∀ r', s' ≠ '-' :: r' := by
      intro r' hr'
      obtain ⟨r, hr, -⟩ := hfrom r' hr'
      exact hs ⟨r, hr⟩
    rw [danglingDash_of_ne (not_exists.mp hs), danglingDash_of_ne hs']

/-- The range between two items. -/
def rangeBetween? : ClassSyntax → ClassSyntax → Option ClassSyntax
  | .literal a, .literal b => if a.char ≤ b.char then some (.range a b) else none
  | _, _ => none

/-- The range that an item begins, or the item, behind what may be skipped. -/
def readRangeEnd (skip : Bool) (first : ClassSyntax) : Reader ClassSyntax := fun s =>
  if danglingDash skip s then some (first, s)
  else match s with
    | '-' :: r => (readClassItem skip (space skip r)).bind fun p =>
      (rangeBetween? first p.1).bind fun range => some (range, p.2)
    | r => some (first, r)

theorem readClassRange_eq (skip : Bool) (s : List Char) :
    readClassRange skip s =
      (readClassItem skip s).bind fun p => readRangeEnd skip p.1 (space skip p.2) := by
  rw [readClassRange]
  congr 1
  funext p
  simp only [readRangeEnd]
  split
  · next r hr =>
      rw [hr]
      simp only [danglingDash]
      by_cases hdash : (peekBehind skip r = some ']' || peekBehind skip r = some '-') = true
      · rw [if_pos hdash, if_pos hdash]
      · rw [if_neg hdash, if_neg hdash]
        congr 1
        funext q
        split
        · next a b ha hb =>
            simp only [ha, hb, rangeBetween?]
            by_cases hle : a.char ≤ b.char
            · simp [hle]
            · simp [hle]
        · next hrange =>
            simp only [rangeBetween?]
            rfl
  · next hdash =>
      rw [danglingDash_of_ne hdash]
      simp

/-- The end of a range behind its dash. -/
def readRangeUpper (skip : Bool) (first : ClassSyntax) : Reader ClassSyntax := fun r =>
  (readClassItem skip (space skip r)).bind fun p =>
    (rangeBetween? first p.1).bind fun range => some (range, p.2)

/-- The end of a range from a dash on that is none of the class. -/
def readRangeDash (skip : Bool) (first : ClassSyntax) : Reader ClassSyntax
  | '-' :: r => readRangeUpper skip first r
  | r => some (first, r)

theorem blind_readRangeEnd (skip : Bool) (first : ClassSyntax) :
    Blind tail tail' (readRangeEnd skip first) := by
  have hupper : Blind tail tail' (readRangeUpper skip first) :=
    ((blind_readClassItem skip).bind (k := fun last s =>
      (rangeBetween? first last).bind fun range => some (range, s))
      fun _ => .option fun range => .pure range).space skip
  have hdash : Blind tail tail' (readRangeDash skip first) := by
    refine .head (c := '-') (by decide) hupper (.pure first) fun s hs => ?_
    unfold readRangeDash
    split <;> simp_all
  exact .test (fun h => h.danglingDash_eq skip) (.pure first) hdash

theorem blind_readClassRange (skip : Bool) : Blind tail tail' (readClassRange skip) :=
  ((blind_readClassItem skip).bind fun first =>
    (blind_readRangeEnd skip first).space skip).congr (readClassRange_eq skip)

/-- A range has at least one character. -/
theorem length_lt_of_readClassRange {skip : Bool} {r : List Char} {cls : ClassSyntax}
    (h : readClassRange skip s = some (cls, r)) : r.length < s.length := by
  rw [readClassRange_eq] at h
  obtain ⟨⟨first, m⟩, hfirst, hend⟩ := Option.bind_eq_some_iff.mp h
  have hitem := length_lt_of_readClassItem hfirst
  have hblind : Blind [] [] fun s => readRangeEnd skip first (space skip s) :=
    (blind_readRangeEnd skip first).space skip
  exact Nat.lt_of_le_of_lt (hblind.shortens hend) hitem

/-! ## bodies -/

/-- How a class starts, behind the dashes in front, which count as they stand
there.  So does a closing bracket if there are none. -/
def openClass (negated : Bool) : (dashes : List Char) → Reader (Bool × List ClassSyntax)
  | [], ']' :: r => some ((negated, [.literal ⟨']', false⟩]), r)
  | dashes, r => some ((negated, dashes.map fun c => .literal ⟨c, false⟩), r)

/-- How a class starts, behind the sign of negation. -/
def readDashes (skip negated : Bool) : Reader (Bool × List ClassSyntax) := fun r =>
  (some (collect skip (· == '-') r)).bind fun p => openClass negated p.1 p.2

/-- How a class starts, where nothing may be skipped in front. -/
def readClassOpeningHere (skip : Bool) : Reader (Bool × List ClassSyntax)
  | '^' :: r => readDashes skip true (space skip r)
  | r => readDashes skip false r

theorem readClassOpening_eq (skip : Bool) (s : List Char) :
    some (((readClassOpening skip s).1, (readClassOpening skip s).2.1),
      (readClassOpening skip s).2.2) = readClassOpeningHere skip (space skip s) := by
  rw [readClassOpening.eq_def]
  generalize space skip s = m
  unfold readClassOpeningHere readDashes openClass
  simp only [Option.bind_some]
  cases m with
  | nil => split <;> simp_all
  | cons c r =>
      by_cases hc : c = '^'
      · subst hc
        split <;> simp_all
      · split <;> simp_all

theorem blind_readClassOpening (skip : Bool) : Blind tail tail' fun s =>
    some (((readClassOpening skip s).1, (readClassOpening skip s).2.1),
      (readClassOpening skip s).2.2) := by
  have hopen : ∀ negated dashes, Blind tail tail' (openClass negated dashes) := by
    intro negated dashes
    cases dashes with
    | nil =>
        refine .head (c := ']') (by decide) (.pure (negated, [ClassSyntax.literal ⟨']', false⟩]))
          (.pure (negated, [])) fun s hs => ?_
        unfold openClass
        split <;> simp_all
    | cons c dashes =>
        exact .pure (negated, (c :: dashes).map fun c => ClassSyntax.literal ⟨c, false⟩)
  have hdashes : ∀ negated, Blind tail tail' (readDashes skip negated) := fun negated =>
    (blind_collect _).bind (hopen negated)
  have hhere : Blind tail tail' (readClassOpeningHere skip) := by
    refine .head (c := '^') (by decide) ((hdashes true).space skip) (hdashes false) fun s hs => ?_
    unfold readClassOpeningHere
    split <;> simp_all
  exact (hhere.space skip).congr (readClassOpening_eq skip)

/-- What a round of reading a class brings. -/
inductive ClassRound where
  /-- The class ends. -/
  | close
  /-- An operator, which ends an operand. -/
  | op (kind : ClassOp)
  /-- An item more. -/
  | item (cls : ClassSyntax)

/-- What stands behind a bracket in a class: a named class, or a class of its own. -/
def readClassInner (skip : Bool) (fuel : Nat) : Reader ClassSyntax := fun r =>
  match readNamedClass r with
  | some (named, r) => some (named, r)
  | none => (readClassBody skip none (readClassOpening skip r).2.1 fuel
      (readClassOpening skip r).2.2).bind fun p =>
    some (.bracketed (readClassOpening skip r).1 p.1, p.2)

/-- What a round of reading a class brings, behind what may be skipped. -/
def readClassRound (skip : Bool) (fuel : Nat) : Reader ClassRound
  | [] => none
  | ']' :: r => some (.close, r)
  | '[' :: r => (readClassInner skip fuel r).map fun p => (.item p.1, p.2)
  | '&' :: '&' :: r => some (.op .intersection, r)
  | '-' :: '-' :: r => some (.op .difference, r)
  | '~' :: '~' :: r => some (.op .symmetricDifference, r)
  | r => (readClassRange skip r).map fun p => (.item p.1, p.2)

/-- How reading a class goes on behind a round. -/
def continueClass (skip : Bool) (pending : Option (ClassOp × ClassSyntax))
    (items : List ClassSyntax) (fuel : Nat) (round : ClassRound) : Reader ClassSyntax := fun r =>
  match round with
  | .close => some (closeOperand pending items, r)
  | .op kind => readClassBody skip (some (kind, closeOperand pending items)) [] fuel r
  | .item cls => readClassBody skip pending (items ++ [cls]) fuel r

theorem readClassBody_succ (skip : Bool) (pending : Option (ClassOp × ClassSyntax))
    (items : List ClassSyntax) (fuel : Nat) (s : List Char) :
    readClassBody skip pending items (fuel + 1) s =
      (readClassRound skip fuel (space skip s)).bind fun p =>
        continueClass skip pending items fuel p.1 p.2 := by
  rw [readClassBody]
  split
  · next h => rw [h]; rfl
  · next h => rw [h]; rfl
  · next r h =>
      rw [h, readClassRound, Option.bind_map, readClassInner]
      cases hnamed : readNamedClass r with
      | some p => rfl
      | none =>
          simp only [Option.bind_assoc]
          rfl
  · next h => rw [h]; rfl
  · next h => rw [h]; rfl
  · next h => rw [h]; rfl
  · rw [readClassRound, Option.bind_map]
    · rfl
    all_goals assumption

/-- A class inside a class, behind its bracket. -/
def readNestedClass (skip : Bool) (fuel : Nat) : Reader ClassSyntax := fun r =>
  (some (((readClassOpening skip r).1, (readClassOpening skip r).2.1),
    (readClassOpening skip r).2.2)).bind fun p =>
  (readClassBody skip none p.1.2 fuel p.2).bind fun q =>
    some (ClassSyntax.bracketed p.1.1 q.1, q.2)

theorem blind_readClassInner (skip : Bool) (fuel : Nat)
    (ih : ∀ pending items, Blind tail tail' (readClassBody skip pending items fuel)) :
    Blind tail tail' (readClassInner skip fuel) := by
  have hnested : Blind tail tail' (readNestedClass skip fuel) :=
    (blind_readClassOpening skip).bind (k := fun p s =>
      (readClassBody skip none p.2 fuel s).bind fun q =>
        some (ClassSyntax.bracketed p.1 q.1, q.2))
      fun p => (ih none p.2).bind (k := fun q s => some (ClassSyntax.bracketed p.1 q, s))
        fun q => .pure _
  have hread : Blind tail tail' fun r =>
      if (readNamedClass r).isSome then readNamedClass r else readNestedClass skip fuel r :=
    .test (fun h => h.isSome_readNamedClass) blind_readNamedClass hnested
  refine hread.congr fun r => ?_
  rw [readClassInner]
  cases readNamedClass r <;> rfl

theorem blind_readClassRound (skip : Bool) (fuel : Nat)
    (ih : ∀ pending items, Blind tail tail' (readClassBody skip pending items fuel)) :
    Blind tail tail' (readClassRound skip fuel) := by
  have hinner : Blind tail tail' fun r =>
      (readClassInner skip fuel r).map fun p => (ClassRound.item p.1, p.2) :=
    (blind_readClassInner skip fuel ih).map
  have hrange : Blind tail tail' fun r =>
      (readClassRange skip r).map fun p => (ClassRound.item p.1, p.2) :=
    (blind_readClassRange skip).map
  have hclose : Blind tail tail' fun r => some (ClassRound.close, r) := .pure _
  have hop : ∀ kind, Blind tail tail' fun r => some (ClassRound.op kind, r) := fun _ => .pure _
  refine .cases [[']'], ['['], ['&', '&'], ['-', '-'], ['~', '~']] (by decide)
    ⟨hclose, hinner, hop _, hop _, hop _⟩ hrange fun s hs => ?_
  obtain ⟨hclose, hopen, hand, hdash, htilde⟩ := hs
  cases s with
  | nil => rfl
  | cons c s =>
      rw [readClassRound]
      · simp
      all_goals assumption

theorem blind_readClassBody (skip : Bool) (pending : Option (ClassOp × ClassSyntax))
    (items : List ClassSyntax) (fuel : Nat) :
    Blind tail tail' (readClassBody skip pending items fuel) := by
  induction fuel generalizing pending items with
  | zero => exact .none
  | succ fuel ih =>
      have hcontinue : ∀ round, Blind tail tail' (continueClass skip pending items fuel round) := by
        intro round
        cases round with
        | close => exact .pure _
        | op kind => exact ih _ []
        | item cls => exact ih pending _
      exact (((blind_readClassRound skip fuel ih).bind hcontinue).space skip).congr
        (readClassBody_succ skip pending items fuel)

/-! ## fuel -/

/-- A round reads something. -/
theorem length_lt_of_readClassRound {skip : Bool} {fuel : Nat} {r : List Char} {round : ClassRound}
    (h : readClassRound skip fuel s = some (round, r)) : r.length < s.length := by
  have hinner : Blind [] [] (readClassInner skip fuel) :=
    blind_readClassInner skip fuel fun pending items => blind_readClassBody skip pending items fuel
  rw [readClassRound.eq_def] at h
  split at h
  · simp at h
  · grind
  · next r' =>
      obtain ⟨q, hq, heq⟩ := Option.map_eq_some_iff.mp h
      have hle := hinner.shortens hq
      obtain ⟨-, rfl⟩ := Prod.mk.inj heq
      rw [List.length_cons]
      omega
  · grind
  · grind
  · grind
  · obtain ⟨q, hq, heq⟩ := Option.map_eq_some_iff.mp h
    obtain ⟨-, rfl⟩ := Prod.mk.inj heq
    exact length_lt_of_readClassRange hq

/-- Another amount of fuel does as well for a round, if it does for the classes in it. -/
theorem readClassRound_of_some {skip : Bool} {fuel fuel' : Nat} {p : ClassRound × List Char}
    (h : readClassRound skip fuel s = some p)
    (ih : ∀ {pending items r q}, r.length < s.length →
      readClassBody skip pending items fuel r = some q →
      readClassBody skip pending items fuel' r = some q) :
    readClassRound skip fuel' s = some p := by
  have hinner : ∀ r q, s = '[' :: r → readClassInner skip fuel r = some q →
      readClassInner skip fuel' r = some q := by
    intro r q hs hq
    have hblind : Blind [] [] fun s => some (((readClassOpening skip s).1,
        (readClassOpening skip s).2.1), (readClassOpening skip s).2.2) :=
      blind_readClassOpening skip
    have hopen := hblind.shortens (s := r) rfl
    rw [readClassInner] at hq ⊢
    cases hnamed : readNamedClass r with
    | some named => rw [hnamed] at hq; exact hq
    | none =>
        rw [hnamed] at hq
        obtain ⟨body, hbody, hq⟩ := Option.bind_eq_some_iff.mp hq
        rw [ih (by rw [hs, List.length_cons]; omega) hbody]
        exact hq
  rw [readClassRound.eq_def] at h ⊢
  split at h
  · exact h
  · exact h
  · next r =>
      obtain ⟨q, hq, rfl⟩ := Option.map_eq_some_iff.mp h
      rw [hinner r q rfl hq]
      rfl
  all_goals exact h

/-- Fuel for each character, and for one round more, is enough. -/
theorem readClassBody_of_some {skip : Bool} {pending : Option (ClassOp × ClassSyntax)}
    {items : List ClassSyntax} {fuel fuel' : Nat} {p : ClassSyntax × List Char}
    (h : readClassBody skip pending items fuel s = some p) (hfuel : s.length < fuel') :
    readClassBody skip pending items fuel' s = some p := by
  induction fuel generalizing pending items s fuel' p with
  | zero => simp [readClassBody] at h
  | succ fuel ih =>
      obtain ⟨fuel', rfl⟩ : ∃ n, fuel' = n + 1 := ⟨fuel' - 1, by omega⟩
      rw [readClassBody_succ] at h ⊢
      obtain ⟨⟨round, r⟩, hround, hrest⟩ := Option.bind_eq_some_iff.mp h
      have hskip := length_space_le skip s
      have hshort := length_lt_of_readClassRound hround
      rw [readClassRound_of_some hround fun hlen hq => ih hq (by omega), Option.bind_some]
      cases round with
      | close => exact hrest
      | op kind => exact ih hrest (by dsimp only; omega)
      | item cls => exact ih hrest (by dsimp only; omega)

/-- The body of a class with the opening given, and with fuel for each character. -/
def readOpenedClass (skip : Bool) (opening : Bool × List ClassSyntax) : Reader Syntax := fun r =>
  (readClassBody skip none opening.2 (r.length + 1) r).bind fun q =>
    some (.bracketed opening.1 q.1, q.2)

theorem blind_readClass (skip : Bool) : Blind tail tail' (readClass skip) := by
  have hbody : ∀ p, Blind tail tail' (readOpenedClass skip p) := by
    intro p
    have hfixed : ∀ fuel, Blind tail tail' fun r =>
        (readClassBody skip none p.2 fuel r).bind fun q => some (Syntax.bracketed p.1 q.1, q.2) :=
      fun fuel => (blind_readClassBody skip none p.2 fuel).bind
        (k := fun q s => some (Syntax.bracketed p.1 q, s)) fun q => .pure _
    constructor
    · intro s r cls h
      exact (hfixed (s.length + 1)).leaves h
    · intro s s' r cls hs h hlen
      obtain ⟨r', hr', hr⟩ := (hfixed (s.length + 1)).alike hs h hlen
      obtain ⟨q, hq, hcls⟩ := Option.bind_eq_some_iff.mp hr'
      refine ⟨r', ?_, hr⟩
      rw [readOpenedClass, readClassBody_of_some hq (Nat.lt_succ_self _)]
      exact hcls
  exact ((blind_readClassOpening skip).bind hbody).congr fun s => rfl

end DeclGen.Pattern
