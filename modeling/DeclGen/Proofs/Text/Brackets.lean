import DeclGen.Text.Segments

/-!
# DeclGen.Proofs.Text.Brackets

The bars of a TypeScript type that stand outside all brackets and quotes: there
are such bars exactly if the type is a union as it stands.

A text is scanned from the front.  The scanner counts the brackets around a
character and knows whether the character is quoted; a `>` right behind a `=` is
the head of an arrow, and closes nothing.

* `Balanced`: the brackets and quotes of a text match.  This is computed.
* `Tame`: what a matching text does to the scanner, at every depth: it is left
  as it was, and a text inside brackets has no bar outside.  Tame texts make
  tame texts, one behind the other or in brackets.
* `hasOutsideBar_append`, `hasOutsideBar_enclose`, `hasOutsideBar_intercalate`: the bars
  outside of what is made of tame texts.
-/

namespace DeclGen.Text

/-! ## scanning -/

/-- Where a character stands: in code, right behind a `=` or not, or in quotes,
behind a backslash or not. -/
inductive Place where
  | code (afterEquals : Bool)
  | quoted (quote : Char) (escaped : Bool)
  deriving DecidableEq, Repr

/-- The characters that open brackets. -/
def openings : List Char := ['(', '[', '{', '<']

/-- The characters that close brackets. -/
def closings : List Char := [')', ']', '}', '>']

/-- The characters that quote: both quotation marks and the back quote. -/
def quotes : List Char := ['"', '\x27', '\x60']

namespace Place

/-- The place behind a character. -/
def next : Place → Char → Place
  | code _, c => if quotes.contains c then quoted c false else code (c == '=')
  | quoted quote true, _ => quoted quote false
  | quoted quote false, c =>
    if c = '\\' then quoted quote true
    else if c = quote then code false
    else quoted quote false

/-- Whether a character opens a bracket. -/
def opens : Place → Char → Bool
  | code _, c => openings.contains c
  | quoted .., _ => false

/-- Whether a character closes a bracket.  The head of an arrow does not. -/
def closes : Place → Char → Bool
  | code afterEquals, c => closings.contains c && !(afterEquals && c == '>')
  | quoted .., _ => false

end Place

/-- What is known in front of a character: how many brackets are open, and where
it stands. -/
structure Scan where
  depth : Nat
  place : Place
  deriving DecidableEq, Repr

/-- Inside so many brackets, in code. -/
def within (depth : Nat) : Scan := ⟨depth, .code false⟩

namespace Scan

/-- The scanner behind a character. -/
def step (s : Scan) (c : Char) : Scan where
  depth :=
    if s.place.opens c then s.depth + 1
    else if s.place.closes c then s.depth - 1
    else s.depth
  place := s.place.next c

/-- The scanner behind a text. -/
def run (s : Scan) (text : List Char) : Scan := text.foldl step s

/-- Whether a character is a bar outside all brackets and quotes. -/
def isBar (s : Scan) (c : Char) : Bool :=
  c == '|' && s.depth == 0 && match s.place with
    | .code _ => true
    | .quoted .. => false

/-- Whether there is a bar outside all brackets and quotes in a text. -/
def findsBar (s : Scan) : List Char → Bool
  | [] => false
  | c :: r => s.isBar c || (s.step c).findsBar r

/-- Whether a text closes what is open and nothing else. -/
def closesAll (s : Scan) : List Char → Bool
  | [] => s == within 0
  | c :: r => !(s.place.closes c && s.depth == 0) && (s.step c).closesAll r

theorem run_append (s : Scan) (u v : List Char) : s.run (u ++ v) = (s.run u).run v :=
  List.foldl_append

theorem findsBar_append (s : Scan) (u v : List Char) :
    s.findsBar (u ++ v) = (s.findsBar u || (s.run u).findsBar v) := by
  induction u generalizing s with
  | nil => rfl
  | cons c u ih => rw [List.cons_append, findsBar, ih, findsBar, Bool.or_assoc]; rfl

/-- Inside so many more brackets. -/
def deeper (d : Nat) (s : Scan) : Scan := ⟨d + s.depth, s.place⟩

/-- A character does the same deeper inside, unless it closes what is not open. -/
theorem step_deeper {s : Scan} {c : Char} (h : (!(s.place.closes c && s.depth == 0)) = true)
    (d : Nat) : (s.deeper d).step c = (s.step c).deeper d := by
  have hdepth : s.place.closes c = true → s.depth ≠ 0 := by
    intro hcloses
    simpa [hcloses] using h
  unfold step deeper
  by_cases hopens : s.place.opens c = true
  · simp [hopens, Nat.add_assoc]
  · by_cases hcloses : s.place.closes c = true
    · have hsub : d + s.depth - 1 = d + (s.depth - 1) := by
        have := hdepth hcloses
        omega
      simp [hopens, hcloses, hsub]
    · simp [hopens, hcloses]

/-- A text that closes what is open leaves the brackets around it. -/
theorem run_deeper {s : Scan} {text : List Char} (h : s.closesAll text = true) (d : Nat) :
    (s.deeper d).run text = within d := by
  induction text generalizing s with
  | nil =>
      have hs : s = within 0 := eq_of_beq h
      rw [hs]
      rfl
  | cons c r ih =>
      obtain ⟨hc, hr⟩ := Bool.and_eq_true_iff.mp h
      have hstep : (s.deeper d).step c = (s.step c).deeper d := step_deeper hc d
      exact (congrArg (·.run r) hstep).trans (ih hr)

/-- Inside another bracket no bar is outside. -/
theorem findsBar_deeper {s : Scan} {text : List Char} (h : s.closesAll text = true) (d : Nat) :
    (s.deeper (d + 1)).findsBar text = false := by
  induction text generalizing s with
  | nil => rfl
  | cons c r ih =>
      obtain ⟨hc, hr⟩ := Bool.and_eq_true_iff.mp h
      have hstep : (s.deeper (d + 1)).step c = (s.step c).deeper (d + 1) :=
        step_deeper hc (d + 1)
      have hbar : (s.deeper (d + 1)).isBar c = false := by simp [isBar, deeper]
      rw [findsBar, hbar, hstep, ih hr]
      rfl

end Scan

/-- Whether a text has a bar outside all its brackets and quotes. -/
def hasOutsideBar (text : List Char) : Bool := (within 0).findsBar text

example : hasOutsideBar "(a: string) => void | null".toList = true := by decide

example : hasOutsideBar "Map<'a|b', (x: A | B) => C>".toList = false := by decide

/-- The brackets and quotes of a text match: each closing bracket closes one that
is open, and at the end nothing is left open, not even an arrow behind a `=`. -/
def Balanced (text : List Char) : Prop := (within 0).closesAll text = true

instance : DecidablePred Balanced := fun text =>
  inferInstanceAs (Decidable ((within 0).closesAll text = true))

/-! ## tame texts -/

/-- A text that the scanner leaves as it found it, and that has no bar outside
once it stands in brackets. -/
structure Tame (text : List Char) : Prop where
  run_within : ∀ d, (within d).run text = within d
  no_bar_inside : ∀ d, (within (d + 1)).findsBar text = false

/-- Matching brackets and quotes make a text tame. -/
theorem Balanced.tame {text : List Char} (h : Balanced text) : Tame text where
  run_within d := Scan.run_deeper h d
  no_bar_inside d := Scan.findsBar_deeper h d

theorem tame_nil : Tame [] := Balanced.tame rfl

/-- Tame texts one behind the other are tame. -/
theorem Tame.append {u v : List Char} (hu : Tame u) (hv : Tame v) : Tame (u ++ v) where
  run_within d := by rw [Scan.run_append, hu.run_within, hv.run_within]
  no_bar_inside d := by
    rw [Scan.findsBar_append, hu.no_bar_inside, hu.run_within, hv.no_bar_inside]
    rfl

/-- Tame texts with a tame text between each two are tame. -/
theorem tame_intercalate {sep : List Char} {parts : List (List Char)} (hsep : Tame sep)
    (h : ∀ part ∈ parts, Tame part) : Tame (sep.intercalate parts) := by
  induction parts with
  | nil => exact tame_nil
  | cons part parts ih =>
      obtain ⟨hpart, hparts⟩ := List.forall_mem_cons.mp h
      cases parts with
      | nil => rwa [List.intercalate_singleton]
      | cons next parts =>
          rw [List.intercalate_cons_cons]
          exact (hpart.append hsep).append (ih hparts)

/-- An opening bracket opens one level more. -/
theorem step_opening {c : Char} (h : c ∈ openings) (d : Nat) :
    (within d).step c = within (d + 1) ∧ (within d).isBar c = false := by
  simp only [openings, List.mem_cons, List.not_mem_nil, or_false] at h
  rcases h with rfl | rfl | rfl | rfl <;> exact ⟨rfl, rfl⟩

/-- A closing bracket closes the innermost level. -/
theorem step_closing {c : Char} (h : c ∈ closings) (d : Nat) :
    (within (d + 1)).step c = within d ∧ (within (d + 1)).isBar c = false := by
  simp only [closings, List.mem_cons, List.not_mem_nil, or_false] at h
  rcases h with rfl | rfl | rfl | rfl <;> exact ⟨rfl, rfl⟩

section Enclosed

variable {opening closing : Char} {text : List Char}

/-- A tame text in brackets leaves the scanner as it was and has no bar outside,
whatever is around it. -/
theorem Tame.scan_enclose (h : Tame text) (ho : opening ∈ openings) (hc : closing ∈ closings)
    (d : Nat) :
    (within d).run (opening :: (text ++ [closing])) = within d ∧
      (within d).findsBar (opening :: (text ++ [closing])) = false := by
  obtain ⟨hopen, hopenBar⟩ := step_opening ho d
  obtain ⟨hclose, hcloseBar⟩ := step_closing hc d
  constructor
  · show ((within d).step opening).run (text ++ [closing]) = within d
    rw [hopen, Scan.run_append, h.run_within]
    exact hclose
  · rw [Scan.findsBar, hopenBar, hopen, Scan.findsBar_append, h.no_bar_inside, h.run_within,
      Scan.findsBar, hcloseBar]
    rfl

/-- A tame text in brackets is tame. -/
theorem Tame.enclose (h : Tame text) (ho : opening ∈ openings) (hc : closing ∈ closings) :
    Tame (opening :: (text ++ [closing])) where
  run_within d := (h.scan_enclose ho hc d).1
  no_bar_inside d := (h.scan_enclose ho hc (d + 1)).2

/-- Brackets leave no bar outside. -/
theorem hasOutsideBar_enclose (h : Tame text) (ho : opening ∈ openings) (hc : closing ∈ closings) :
    hasOutsideBar (opening :: (text ++ [closing])) = false :=
  (h.scan_enclose ho hc 0).2

end Enclosed

/-! ## bars outside -/

/-- Behind a tame text the bars outside are those of the two texts. -/
theorem hasOutsideBar_append {u : List Char} (hu : Tame u) (v : List Char) :
    hasOutsideBar (u ++ v) = (hasOutsideBar u || hasOutsideBar v) := by
  rw [hasOutsideBar, Scan.findsBar_append, hu.run_within]
  rfl

/-- Two parts at least are joined by a bar outside if the separator has one. -/
theorem hasOutsideBar_intercalate {sep a b : List Char} {parts : List (List Char)} (ha : Tame a)
    (hbar : hasOutsideBar sep = true) (hsep : Tame sep) :
    hasOutsideBar (sep.intercalate (a :: b :: parts)) = true := by
  rw [List.intercalate_cons_cons, List.append_assoc, hasOutsideBar_append ha,
    hasOutsideBar_append hsep, hbar, Bool.true_or, Bool.or_true]

/-! ## words -/

/-- The characters that are no part of a word: brackets, quotes, the `=` of an
arrow, and the bar. -/
def marks : List Char := openings ++ closings ++ quotes ++ ['=', '|']

/-- A text without any such character is balanced, and has no bar outside. -/
theorem balanced_of_no_mark {text : List Char} (h : ∀ c ∈ text, c ∉ marks) :
    Balanced text ∧ hasOutsideBar text = false := by
  induction text with
  | nil => exact ⟨rfl, rfl⟩
  | cons c r ih =>
      obtain ⟨hc, hr⟩ := List.forall_mem_cons.mp h
      obtain ⟨hopening, hclosing, hquote, hequals, hbar⟩ :
          c ∉ openings ∧ c ∉ closings ∧ c ∉ quotes ∧ c ≠ '=' ∧ c ≠ '|' := by
        simpa [marks] using hc
      have hstep : (within 0).step c = within 0 := by
        simp [Scan.step, within, Place.opens, Place.closes, Place.next, hopening, hclosing, hquote,
          hequals]
      have hcloses : (within 0).place.closes c = false := by
        simp [within, Place.closes, hclosing]
      have hisBar : (within 0).isBar c = false := by simp [Scan.isBar, hbar]
      obtain ⟨hbalanced, hno⟩ := ih hr
      constructor
      · rw [Balanced, Scan.closesAll, hcloses, hstep]
        exact hbalanced
      · rw [hasOutsideBar, Scan.findsBar, hisBar, hstep]
        exact hno

end DeclGen.Text
